/-
Settings that are saved and loaded again.

Whatever the settings file holds, the settings that come from it have numbers that fit their fields
and texts that can be written. So each section is read back from what is written for it, and the
settings are loaded again as they were (`Settings.load_savedText`). It does not matter which
sections and fields the file had, nor whether a section was written as a list.

There is one exception. A temperature that is too large for single precision is taken as infinite
and written as `null`, and a file with that is refused (`Settings.load_savedText_boundless`).

Of a finite temperature it is asked that its text is read back as it (`Single.ReadsBack`).
-/
import ControlPlane.Proofs.Keeping
import ControlPlane.Settings

set_option autoImplicit false

namespace ControlPlane

/-- The text of the number is read as it. -/
def Single.ReadsBack (x : Single) : Prop :=
  ∃ n, Reader.number? (JsonNumber.single x).chars = some (some n, []) ∧
    Decoder.single .streaming (.number (some n)) = .ok (some x)

namespace Settings

/-! ## Numbers -/

theorem isUnsigned64 : Decoder.IsUnsigned .unsigned64 := ⟨rfl, by decide⟩

theorem isUnsigned32 : Decoder.IsUnsigned .unsigned32 := ⟨rfl, by decide⟩

theorem isUnsigned16 : Decoder.IsUnsigned .unsigned16 := ⟨rfl, by decide⟩

theorem word64_yields (wanted : String) : (word64 wanted).Yields ((word64 wanted).Keeps count) :=
  Decoder.natural_yields isUnsigned64 wanted

theorem word64_keeps (wanted : String) {n : Nat} (hn : WordRange.unsigned64.holds n = true) :
    (word64 wanted).Keeps count n :=
  Decoder.natural_keeps isUnsigned64 hn

theorem word32_yields :
    (Decoder.natural .unsigned32 "u32").Yields ((Decoder.natural .unsigned32 "u32").Keeps count) :=
  Decoder.natural_yields isUnsigned32 "u32"

theorem word32_keeps {n : Nat} (hn : WordRange.unsigned32.holds n = true) :
    (Decoder.natural .unsigned32 "u32").Keeps count n :=
  Decoder.natural_keeps isUnsigned32 hn

theorem temperature_keeps {x : Single} (hx : Single.ReadsBack x) :
    Decoder.single.Keeps temperatureJson (some x) := by
  obtain ⟨n, hnumber, hread⟩ := hx
  have hreread : (JsonNumber.single x).reread = n := by rw [JsonNumber.reread, hnumber]
  constructor
  · refine Json.legible_number ?_
    rw [JsonNumber.Legible, hnumber, hreread]
  · intro mode
    rw [temperatureJson, Json.orNull, Json.reread, hreread]
    -- single precision is read alike in both modes
    cases n <;> exact hread

/-! ## Sections that are read back -/

theorem UserToken.decoder_yields :
    UserToken.decoder.Yields (UserToken.decoder.Keeps UserToken.toJson) := by
  refine RecordReader.yields_start ?_
    |>.required Decoder.text_yields
    |>.required Decoder.signed64_yields
    |>.decoder _
  intro _ htoken _ huser
  exact RecordReader.reads_start UserToken.mk
    |>.field "token" htoken
    |>.field "userId" huser
    |>.keeps rfl (by simp) _

theorem Gateway.decoder_yields : Gateway.decoder.Yields (Gateway.decoder.Keeps toJson) := by
  refine RecordReader.yields_start ?_
    |>.defaulted Decoder.text_yields (Decoder.text_keeps _)
    |>.defaulted (Decoder.natural_yields isUnsigned16 "u16")
      (Decoder.natural_keeps isUnsigned16 (by decide))
    |>.optional Decoder.optionalText_yields (Decoder.optionalText_keeps none)
    |>.defaulted (Decoder.list_yields Decoder.text_yields) (List.forall_mem_nil _)
    |>.defaulted (Decoder.list_yields UserToken.decoder_yields) (List.forall_mem_nil _)
    |>.decoder _
  intro _ hhost _ hport _ hapi _ horigins _ husers
  exact RecordReader.reads_start Gateway.mk
    |>.field "host" hhost
    |>.field "port" hport
    |>.field "apiToken" hapi
    |>.field "allowedOrigins" (Decoder.list_keeps horigins)
    |>.field "userTokens" (Decoder.list_keeps husers)
    |>.keeps rfl (by simp) _

theorem Connection.decoder_yields :
    Connection.decoder.Yields (Connection.decoder.Keeps Connection.toJson) := by
  refine RecordReader.yields_start ?_
    |>.defaulted (word64_yields "u64") (word64_keeps _ (by decide))
    |>.defaulted (word64_yields "u64") (word64_keeps _ (by decide))
    |>.defaulted (word64_yields "u64") (word64_keeps _ (by decide))
    |>.defaulted (word64_yields "usize") (word64_keeps _ (by decide))
    |>.defaulted (word64_yields "usize") (word64_keeps _ (by decide))
    |>.decoder _
  intro _ hwrite _ hpong _ hping _ hsize _ hbuffer
  exact RecordReader.reads_start Connection.mk
    |>.field "writeWaitSecs" hwrite
    |>.field "pongWaitSecs" hpong
    |>.field "pingPeriodSecs" hping
    |>.field "maxMessageSize" hsize
    |>.field "sendBuffer" hbuffer
    |>.keeps rfl (by simp) _

theorem Sweeper.decoder_yields :
    Sweeper.decoder.Yields (Sweeper.decoder.Keeps Sweeper.toJson) := by
  refine RecordReader.yields_start ?_
    |>.defaulted Decoder.bool_yields (Decoder.bool_keeps _)
    |>.defaulted Decoder.text_yields (Decoder.text_keeps _)
    |>.defaulted (word64_yields "u64") (word64_keeps _ (by decide))
    |>.defaulted (word64_yields "u64") (word64_keeps _ (by decide))
    |>.decoder _
  intro _ henabled _ hschedule _ haction _ hmessage
  exact RecordReader.reads_start Sweeper.mk
    |>.field "enabled" henabled
    |>.field "schedule" hschedule
    |>.field "actionMaxDurationSecs" haction
    |>.field "messageMaxDurationSecs" hmessage
    |>.keeps rfl (by simp) _

theorem Storage.decoder_yields :
    Storage.decoder.Yields (Storage.decoder.Keeps Storage.toJson) := by
  refine RecordReader.yields_start ?_
    |>.optional Decoder.optionalText_yields (Decoder.optionalText_keeps none)
    |>.decoder _
  intro _ hpath
  exact RecordReader.reads_start Storage.mk
    |>.field "dbPath" hpath
    |>.keeps rfl (by simp) _

/-! ## Temperatures -/

/-- What becomes of a part of the settings that has a temperature, when it is written and read
again. -/
structure Survives {α : Type} (d : Decoder α) (write : α → Json) (temperature : Option Single)
    (e : Defect) (a : α) : Prop where
  /-- It is kept with a finite temperature. -/
  keeps : ∀ x, temperature = some x → Single.ReadsBack x → d.Keeps write a
  /-- It can be written with an infinite one. -/
  legible : temperature = none → (write a).Legible
  /-- But then it is refused. -/
  refuses : temperature = none → ∀ mode, d mode (.ofJson (write a).reread) = .error e

/-- The complaint about an infinite temperature, seen from the section of decisions. -/
def infiniteTemperature : Defect :=
  (Defect.here (.wrongType .null "f32")).inside (.member "temperature")

theorem Decision.decoder_yields : Decision.decoder.Yields fun d =>
    Survives Decision.decoder Decision.toJson d.temperature infiniteTemperature d := by
  refine RecordReader.yields_start ?_
    |>.defaulted Decoder.text_yields (Decoder.text_keeps _)
    |>.defaulted Decoder.text_yields (Decoder.text_keeps _)
    |>.defaulted Decoder.text_yields (Decoder.text_keeps _)
    |>.defaulted word32_yields (word32_keeps (by decide))
    |>.defaulted (P := fun _ => True) (fun _ _ _ _ => trivial) trivial
    |>.defaulted (word64_yields "u64") (word64_keeps _ (by decide))
    |>.defaulted word32_yields (word32_keeps (by decide))
    |>.defaulted (word64_yields "u64") (word64_keeps _ (by decide))
    |>.defaulted word32_yields (word32_keeps (by decide))
    |>.decoder _
  intro _ hbase _ hkey _ hmodel _ htokens temperature _ _ htimeout _ hretries _ hdelay _ hfailures
  constructor
  · rintro x rfl hx
    exact RecordReader.reads_start Decision.mk
      |>.field "apiBase" hbase
      |>.field "apiKey" hkey
      |>.field "model" hmodel
      |>.field "maxTokens" htokens
      |>.field "temperature" (temperature_keeps hx)
      |>.field "timeoutSecs" htimeout
      |>.field "maxRetries" hretries
      |>.field "retryDelayMs" hdelay
      |>.field "maxConsecutiveFailures" hfailures
      |>.keeps rfl (by simp) _
  · rintro rfl
    refine Json.legible_object ?_
    simp [hbase.legible, hkey.legible, hmodel.legible, htokens.legible, htimeout.legible,
      hretries.legible, hdelay.legible, hfailures.legible, temperatureJson, Json.orNull,
      Json.legible_null]
  · rintro rfl mode
    exact RecordReader.reads_start Decision.mk
      |>.field "apiBase" hbase
      |>.field "apiKey" hkey
      |>.field "model" hmodel
      |>.field "maxTokens" htokens
      |>.refuses rfl (by simp) (by simp) rfl _ _

/-! ## All settings -/

/-- The complaint about an infinite temperature, seen from the whole file. -/
def infiniteSetting : Defect := infiniteTemperature.inside (.member "decision")

theorem decoder_yields : decoder.Yields fun s =>
    Survives decoder toJson s.decision.temperature infiniteSetting s := by
  refine RecordReader.yields_start ?_
    |>.defaulted Gateway.decoder_yields
      (Gateway.decoder_yields .streaming (.object [] true) _ rfl)
    |>.defaulted Connection.decoder_yields
      (Connection.decoder_yields .streaming (.object [] true) _ rfl)
    |>.defaulted Decision.decoder_yields
      (Decision.decoder_yields .streaming (.object [] true) _ rfl)
    |>.defaulted Sweeper.decoder_yields
      (Sweeper.decoder_yields .streaming (.object [] true) _ rfl)
    |>.defaulted Storage.decoder_yields
      (Storage.decoder_yields .streaming (.object [] true) _ rfl)
    |>.decoder _
  intro _ hgateway _ hconnection _ hdecision _ hsweeper _ hstorage
  constructor
  · intro x hfinite hx
    exact RecordReader.reads_start Settings.mk
      |>.field "gateway" hgateway
      |>.field "connection" hconnection
      |>.field "decision" (hdecision.keeps x hfinite hx)
      |>.field "sweeper" hsweeper
      |>.field "storage" hstorage
      |>.keeps rfl (by simp) _
  · intro hinfinite
    refine Json.legible_object ?_
    simp [hgateway.legible, hconnection.legible, hdecision.legible hinfinite, hsweeper.legible,
      hstorage.legible]
  · intro hinfinite mode
    exact RecordReader.reads_start Settings.mk
      |>.field "gateway" hgateway
      |>.field "connection" hconnection
      |>.refuses rfl (by simp) (by simp) (hdecision.refuses hinfinite mode) _ _

/-- What is written is decoded as what is written. -/
theorem read_savedText {s : Settings} (h : s.toJson.Legible) :
    read s.savedText = (decoder .streaming (.ofJson s.toJson.reread)).mapError .badJson := by
  rw [read, savedText, Decoder.ofText, Document.ofText_prettyText h, Document.decode]
  cases decoder .streaming (.ofJson s.toJson.reread) with
  | ok s' => rfl
  | error e => rfl

theorem load_ok {text : String} {s : Settings} (h : load text = .ok s) :
    decoder .streaming (Document.ofText text).root = .ok s ∧ s.check = .ok () := by
  unfold load at h
  split at h
  next => cases h
  next s' hread =>
    split at h
    next => cases h
    next hcheck =>
      obtain rfl := Except.ok.inj h
      refine ⟨?_, hcheck⟩
      unfold read Decoder.ofText Document.decode at hread
      split at hread
      next a hdecode =>
        split at hdecode
        next => cases hdecode
        next b hroot =>
          split at hdecode
          · rw [hroot, Except.ok.inj hdecode, Except.ok.inj hread]
          · cases hdecode
      next => cases hread

/-- With a finite temperature that is read back what is saved is accepted. -/
theorem Survives.load_finite {s : Settings}
    (h : Survives decoder toJson s.decision.temperature infiniteSetting s)
    (hcheck : s.check = .ok ()) {x : Single} (htemperature : s.decision.temperature = some x)
    (hx : Single.ReadsBack x) : load s.savedText = .ok s := by
  have hkeeps := h.keeps x htemperature hx
  have hread : read s.savedText = .ok s := by
    rw [read_savedText hkeeps.legible, hkeeps.reads]
    rfl
  rw [load, hread]
  simp only [hcheck]

/-- With an infinite temperature it is refused. -/
theorem Survives.load_infinite {s : Settings}
    (h : Survives decoder toJson s.decision.temperature infiniteSetting s)
    (htemperature : s.decision.temperature = none) :
    load s.savedText = .error (.badJson infiniteSetting) := by
  have hread : read s.savedText = .error (.badJson infiniteSetting) := by
    rw [read_savedText (h.legible htemperature), h.refuses htemperature]
    rfl
  rw [load, hread]

/-- **Settings can be saved and loaded again**, if their temperature is finite. Take any text of a
settings file that is accepted, whatever sections and fields it has, and suppose that the text of a
finite temperature is read as it. Then what is saved of the settings is accepted again and gives
the same settings; but if the temperature is infinite it is refused, with a complaint about the
temperature. -/
theorem load_savedText {text : String} {s : Settings} (h : load text = .ok s)
    (hround : ∀ x, s.decision.temperature = some x → Single.ReadsBack x) :
    load s.savedText =
      if s.decision.temperature.isSome then .ok s else .error (.badJson infiniteSetting) := by
  obtain ⟨hdecode, hcheck⟩ := load_ok h
  have hsurvives := decoder_yields .streaming _ s hdecode
  cases htemperature : s.decision.temperature with
  | some x =>
      rw [hsurvives.load_finite hcheck htemperature (hround x htemperature)]
      rfl
  | none =>
      rw [hsurvives.load_infinite htemperature]
      rfl

end Settings

namespace Sample

/-- A file with some settings, one of them unknown, and a section that is written as a list. -/
def settingsFile : String :=
  "\x7b\"gateway\": \x7b\"port\": 9000, \"userTokens\": [[\"t-7\", 7]], \"theme\": \"dark\"\x7d," ++
    " \"decision\": \x7b\"temperature\": 0.7, \"model\": \"\\u00e9\\n\"\x7d, \"storage\": []\x7d"

/-- Seven tenths, in single precision. -/
def sevenTenths : Single := (Binary.ofRatio .single false 7 10).getD default

/-- The settings of that file. -/
def settings : Settings :=
  { Settings.standard with
    gateway := { Settings.Gateway.standard with port := 9000, userTokens := [⟨"t-7", 7⟩] }
    decision := { Settings.Decision.standard with
      temperature := some sevenTenths, model := "\u00e9\n" } }

/-- The default settings, except that the temperature is infinite. -/
def boundless : Settings :=
  { Settings.standard with
    decision := { Settings.Decision.standard with temperature := none } }

end Sample

namespace Settings

theorem load_savedText_settings :
    load Sample.settingsFile = .ok Sample.settings ∧ Single.ReadsBack Sample.sevenTenths ∧
      load Sample.settings.savedText = .ok Sample.settings := by
  have hload : load Sample.settingsFile = .ok Sample.settings := by decide +kernel
  have hback : Single.ReadsBack Sample.sevenTenths :=
    ⟨(JsonNumber.single Sample.sevenTenths).reread, by decide +kernel, by decide +kernel⟩
  refine ⟨hload, hback, load_savedText hload ?_⟩
  rintro x hx
  rwa [← Option.some.inj hx]

/-- A temperature that is too large for single precision is accepted, and what is saved of it is
not. -/
theorem load_savedText_boundless :
    load "\x7b\"decision\": \x7b\"temperature\": 1e39\x7d\x7d" = .ok Sample.boundless ∧
      load Sample.boundless.savedText = .error (.badJson infiniteSetting) := by
  have hload : load "\x7b\"decision\": \x7b\"temperature\": 1e39\x7d\x7d" =
      .ok Sample.boundless := by decide +kernel
  have hsurvives := decoder_yields .streaming _ _ (load_ok hload).1
  exact ⟨hload, hsurvives.load_infinite rfl⟩

end Settings

end ControlPlane
