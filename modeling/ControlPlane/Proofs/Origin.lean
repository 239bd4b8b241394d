/-
Which web sites are let in.

What an answer says about the site that asks is decided by the policy alone: whatever is asked, and
whatever the store answers, nothing else in the gateway writes that header
(`Gateway.handle_tells`). So the question is which policy a list of sites makes.

A list with a star makes none. Any other list with an entry that can be the value of a header makes
the policy of these entries: they are let in, and no other site is. But if the list has no such
entry, the policy is the one for an empty list, and everybody is let in, however many entries
there are (`Gateway.allowedOrigins_spec`). Neither is found out when settings are checked.
-/
import ControlPlane.Proofs.Requesting
import ControlPlane.Proofs.Saving
import ControlPlane.World

set_option autoImplicit false

namespace ControlPlane

/-! ## What a program comes to -/

namespace Program

variable {α β : Type} {P : α → Prop} {Q : β → Prop}

/-- Whatever happens on the way, the result of the program has a property. -/
def Gives (P : α → Prop) : Program α → Prop
  | done a => P a
  | call _ next => ∀ r, Gives P (next r)
  | decide _ next => ∀ r, Gives P (next r)
  | pause _ next => Gives P (next ())
  | clock next => ∀ t, Gives P (next t)

/-- What a program gives is what its second part gives on whatever its first part gives. -/
theorem Gives.bind {p : Program α} {f : α → Program β} (hp : p.Gives P)
    (hf : ∀ a, P a → (f a).Gives Q) : (p.bind f).Gives Q := by
  induction p with
  | done a => exact hf a hp
  | call c next ih => exact fun r => ih r (hp r)
  | decide context next ih => exact fun r => ih r (hp r)
  | pause _ next ih => exact ih () hp
  | clock next ih => exact fun t => ih t (hp t)

/-- Of the result of a program nothing is wanted. -/
theorem gives_true (p : Program α) : p.Gives fun _ => True := by
  induction p with
  | done a => trivial
  | call c next ih => exact fun r => ih r
  | decide context next ih => exact fun r => ih r
  | pause _ next ih => exact ih ()
  | clock next ih => exact fun t => ih t

/-- What comes last decides. -/
theorem gives_bind {p : Program α} {f : α → Program β} (hf : ∀ a, (f a).Gives Q) :
    (p.bind f).Gives Q :=
  p.gives_true.bind fun a _ => hf a

/-- In every world the program comes to a result with the property. -/
theorem Gives.run {p : Program α} (hp : p.Gives P) (w : World) : P (p.run w).1 := by
  induction p generalizing w with
  | done a => exact hp
  | call c next ih => exact ih _ (hp _) _
  | decide context next ih => exact ih _ (hp _) _
  | pause _ next ih => exact ih () hp _
  | clock next ih => exact ih _ (hp _) _

end Program

/-! ## The header -/

namespace Http.Response

/-- The name of the header in which an answer says who may read it. -/
def originHeader : String := "access-control-allow-origin"

/-- The answer may be read by a site: it says so of this site, or of all. -/
def Grants (a : Response) (origin : String) : Prop :=
  (originHeader, "*") ∈ a.headers ∨ (originHeader, origin) ∈ a.headers

instance (a : Response) (origin : String) : Decidable (a.Grants origin) :=
  inferInstanceAs (Decidable (_ ∨ _))

/-- The answer does not say who may read it. -/
def Reserved (a : Response) : Prop := ∀ h ∈ a.headers, h.1 ≠ originHeader

/-- An answer with a value does not say who may read it. -/
theorem reserved_json (status : Nat) (v : Json) : (json status v).Reserved := by
  intro h hh
  rw [List.mem_singleton.1 hh]
  decide

/-- Nor does one with a text. -/
theorem reserved_text (status : Nat) (s : String) : (text status s).Reserved := by
  intro h hh
  rw [List.mem_singleton.1 hh]
  decide

/-- Nor does one with nothing. -/
theorem reserved_bare (status : Nat) : (bare status).Reserved :=
  fun _ h => absurd h List.not_mem_nil

/-- Another header does not say it either. -/
theorem Reserved.withHeader {a : Response} (ha : a.Reserved) {name : String}
    (hname : name ≠ originHeader) (value : String) : (a.withHeader name value).Reserved := by
  intro h hh
  rcases List.mem_append.1 hh with hh | hh
  · exact ha h hh
  · rw [List.mem_singleton.1 hh]
    exact hname

end Http.Response

namespace Gateway

open Http

-- what is answered does not depend on what a title becomes when it is trimmed
attribute [local irreducible] Text.trim

/-- If there is an answer, it does not say who may read it. -/
def Outcome.Reserved : Outcome → Prop
  | answer a => a.Reserved
  | connect _ => True

/-- What is answered at once is the answer. -/
theorem answerNow_reserved {a : Response} (ha : a.Reserved) :
    (answerNow a).Gives Outcome.Reserved := ha

/-- No fault says who may read of it. -/
theorem faultResponse_reserved (f : Fault) : (faultResponse f).Reserved :=
  Response.reserved_json _ _

/-- No flaw of an upgrade says it. -/
theorem upgradeFlaw_reserved (flaw : UpgradeFlaw) : flaw.response.Reserved := by
  cases flaw <;> exact Response.reserved_text _ _

/-- No flaw of a body says it. -/
theorem bodyFlaw_reserved (flaw : BodyFlaw) : flaw.response.Reserved := by
  cases flaw with
  | notJsonType => exact Response.reserved_text _ _
  | defect d =>
      simp only [BodyFlaw.response]
      split
      · exact Response.reserved_text _ _
      · exact Response.reserved_text _ _

/-- What a procedure is answered with does not say it. -/
theorem reply_reserved {α : Type} (toJson : α → Json) (p : Procedure α) :
    (reply toJson p).Gives Outcome.Reserved := by
  refine Program.gives_bind ?_
  intro r
  cases r with
  | ok a => exact Response.reserved_json _ _
  | error f => exact faultResponse_reserved f

/-- A number in the path changes nothing about that. -/
theorem withNumber_reserved (part : List Char) {f : Int → Program Outcome}
    (hf : ∀ id, (f id).Gives Outcome.Reserved) : (withNumber part f).Gives Outcome.Reserved := by
  unfold withNumber
  split
  · exact hf _
  · exact answerNow_reserved (Response.reserved_text _ _)

/-- Nor does a body. -/
theorem withBody_reserved {α : Type} (d : Decoder α) (r : Request) {f : α → Program Outcome}
    (hf : ∀ a, (f a).Gives Outcome.Reserved) : (withBody d r f).Gives Outcome.Reserved := by
  unfold withBody
  split
  · exact hf _
  · exact answerNow_reserved (bodyFlaw_reserved _)

/-- To be connected tells nobody who may read. -/
theorem connect_reserved (session : Access.Session) (r : Request) (upgradable : Bool)
    (part : List Char) : (connect session r upgradable part).Gives Outcome.Reserved := by
  unfold connect
  split
  · exact answerNow_reserved (Response.reserved_text _ _)
  · split
    · exact answerNow_reserved (faultResponse_reserved _)
    · refine Program.gives_bind ?_
      intro loaded
      cases loaded with
      | error f => exact answerNow_reserved (faultResponse_reserved f)
      | ok conversation =>
          simp only
          split
          · exact answerNow_reserved (upgradeFlaw_reserved _)
          · exact trivial

/-- No resource says who may read its answers. -/
theorem serve_reserved (session : Access.Session) (r : Request) (connections : Nat)
    (upgradable : Bool) (resource : Resource) (verb : Verb) :
    (serve session r connections upgradable resource verb).Gives Outcome.Reserved := by
  unfold serve
  split
  · exact answerNow_reserved (Response.reserved_json _ _)
  · exact connect_reserved session r upgradable _
  · split
    · exact reply_reserved _ _
    · exact answerNow_reserved (Response.reserved_text _ _)
  · exact withBody_reserved _ r fun _ => reply_reserved _ _
  · exact withNumber_reserved _ fun _ => reply_reserved _ _
  · exact withNumber_reserved _ fun _ => withBody_reserved _ r fun _ => reply_reserved _ _
  · exact withNumber_reserved _ fun _ => reply_reserved _ _
  · exact withNumber_reserved _ fun _ => withBody_reserved _ r fun _ => reply_reserved _ _
  · exact withNumber_reserved _ fun _ => reply_reserved _ _
  · exact reply_reserved _ _
  · exact reply_reserved _ _
  · exact reply_reserved _ _

theorem allow_ne : "allow" ≠ Response.originHeader := by decide

/-- Before the policy is put in, no answer says who may read it. -/
theorem respond_reserved (tokens : Access.Tokens) (connections : Nat) (upgradable : Bool)
    (r : Request) : (respond tokens connections upgradable r).Gives Outcome.Reserved := by
  -- an answer without its text says the same
  have hmap : ∀ p : Program Outcome, p.Gives Outcome.Reserved →
      (p.bind fun o => .done (o.mapAnswer Response.withoutBody)).Gives Outcome.Reserved := by
    refine fun p hp => hp.bind fun o ho => ?_
    cases o with
    | answer a => exact ho
    | connect id => exact trivial
  have hfault := fun f => answerNow_reserved (faultResponse_reserved f)
  unfold respond
  cases sessionOf tokens r with
  | error f =>
      split
      · exact hfault f
      · split
        · exact answerNow_reserved ((faultResponse_reserved f).withHeader allow_ne _)
        · simp only
          split
          · exact hmap _ (hfault f)
          · exact hfault f
  | ok session =>
      split
      · exact answerNow_reserved (Response.reserved_bare 404)
      · split
        · exact answerNow_reserved ((Response.reserved_bare 405).withHeader allow_ne _)
        · have hserve := serve_reserved session r connections upgradable
          simp only
          split
          · exact hmap _ (hserve _ _)
          · exact hserve _ _

/-! ## The policy -/

/-- What follows what is said about sites says nothing more about them. -/
theorem mem_append_reserved {about rest : Headers} (hrest : ∀ h ∈ rest, h.1 ≠ Response.originHeader)
    (v : String) :
    (Response.originHeader, v) ∈ about ++ rest ↔ (Response.originHeader, v) ∈ about := by
  rw [List.mem_append, or_iff_left]
  exact fun hmem => hrest _ hmem rfl

theorem vary_reserved : ∀ h ∈ Cors.vary, h.1 ≠ Response.originHeader := by decide

/-- If there is an answer, it says about sites what is given. -/
def Outcome.Tells (about : Headers) : Outcome → Prop
  | answer a => ∀ v, (Response.originHeader, v) ∈ a.headers ↔ (Response.originHeader, v) ∈ about
  | connect _ => True

/-- A question in advance is answered with what the policy says. -/
theorem preflight_tells (policy : Cors) (r : Request) :
    (Outcome.answer (preflight policy r)).Tells (policy.allowOrigin r) := by
  have hsaid : ∀ v, (Response.originHeader, v) ∈ policy.preflight r ↔
      (Response.originHeader, v) ∈ policy.allowOrigin r := by
    intro v
    rw [Cors.preflight, mem_append_reserved (by decide), mem_append_reserved vary_reserved]
  intro v
  unfold preflight
  split
  · refine (mem_append_reserved ?_ v).trans (hsaid v)
    intro h hh
    rw [List.mem_singleton.1 hh]
    exact allow_ne
  · exact hsaid v

/-- So is any other request. -/
theorem ordinary_tells (policy : Cors) (r : Request) {a : Response} (ha : a.Reserved) :
    (Outcome.answer { a with headers := policy.ordinary r ++ a.headers }).Tells
      (policy.allowOrigin r) := by
  intro v
  rw [mem_append_reserved ha]
  cases policy with
  | everyone =>
      exact (mem_append_reserved (by decide) v).trans (mem_append_reserved vary_reserved v)
  | only origins =>
      exact (mem_append_reserved (fun _ h => absurd h List.not_mem_nil) v).trans
        (mem_append_reserved vary_reserved v)

/-- **What an answer says about the site that asks** is what the policy says. -/
theorem handle_tells (policy : Cors) (tokens : Access.Tokens) (connections : Nat)
    (upgradable : Bool) (r : Request) :
    (handle policy tokens connections upgradable r).Gives
      (Outcome.Tells (policy.allowOrigin r)) := by
  unfold handle
  split
  · exact preflight_tells policy r
  · refine (respond_reserved tokens connections upgradable r).bind ?_
    intro o ho
    cases o with
    | answer a => exact ordinary_tells policy r ho
    | connect id => exact trivial

/-- An answer may be read by a site exactly if the policy says so of the site or of all, whatever is
asked and whatever is stored. -/
theorem handle_grants_iff (policy : Cors) (tokens : Access.Tokens) (connections : Nat)
    (upgradable : Bool) (r : Request) (w : World) {a : Response}
    (ha : ((handle policy tokens connections upgradable r).run w).1 = .answer a)
    (origin : String) :
    a.Grants origin ↔ (Response.originHeader, "*") ∈ policy.allowOrigin r ∨
      (Response.originHeader, origin) ∈ policy.allowOrigin r := by
  have htells := (handle_tells policy tokens connections upgradable r).run w
  rw [ha] at htells
  rw [Response.Grants, htells, htells]

end Gateway

namespace Http.Cors

/-- An entry is used if it can be the value of a header. -/
theorem mem_usable {allowed : List String} {origin : String} :
    origin ∈ usable allowed ↔
      ∃ e ∈ allowed, Headers.isAllowed (Text.trim e) = true ∧ Text.trim e = origin := by
  rw [usable, List.mem_filter, List.mem_map]
  constructor
  · rintro ⟨⟨e, he, rfl⟩, hallowed⟩
    exact ⟨e, he, hallowed, rfl⟩
  · rintro ⟨e, he, hallowed, rfl⟩
    exact ⟨⟨e, he, rfl⟩, hallowed⟩

/-- A list makes a policy unless one of its entries is a star. -/
theorem ofOrigins?_isSome (allowed : List String) :
    (ofOrigins? allowed).isSome = true ↔ ∀ e ∈ allowed, Text.trim e ≠ "*" := by
  have hstar : (usable allowed).contains "*" = true ↔ ∃ e ∈ allowed, Text.trim e = "*" := by
    rw [List.contains_iff_mem, mem_usable]
    constructor
    · rintro ⟨e, he, -, hstar⟩
      exact ⟨e, he, hstar⟩
    · rintro ⟨e, he, hstar⟩
      exact ⟨e, he, by rw [hstar]; decide, hstar⟩
  unfold ofOrigins?
  simp only
  split
  · -- without usable entries there is no star either
    rename_i hempty
    rw [List.isEmpty_iff.1 hempty] at hstar
    simp only [Option.isSome_some, true_iff]
    intro e he hetrim
    cases hstar.2 ⟨e, he, hetrim⟩
  · split
    · rename_i hcontains
      obtain ⟨e, he, hetrim⟩ := hstar.1 hcontains
      simp only [Option.isSome_none, Bool.false_eq_true, false_iff]
      exact fun hnone => hnone e he hetrim
    · rename_i hcontains
      simp only [Option.isSome_some, true_iff]
      exact fun e he hetrim => hcontains (hstar.2 ⟨e, he, hetrim⟩)

/-- A list with entries that can be used makes the policy of these entries, any other one lets
everybody in. -/
theorem ofOrigins?_eq {allowed : List String} {policy : Cors}
    (h : ofOrigins? allowed = some policy) :
    policy = if (usable allowed).isEmpty then everyone else only (usable allowed) := by
  unfold ofOrigins? at h
  simp only at h
  split at h
  · rename_i hempty
    rw [if_pos hempty]
    exact (Option.some.inj h).symm
  · rename_i hsome
    rw [if_neg hsome]
    split at h
    · cases h
    · exact (Option.some.inj h).symm

/-- A policy of a list lets in the site that asks, if it is on the list. -/
theorem mem_allowOrigin_only {origins : List String} {r : Request} {v : String} :
    (Response.originHeader, v) ∈ (only origins).allowOrigin r ↔
      r.headers.first? "origin" = some v ∧ v ∈ origins := by
  unfold allowOrigin
  cases r.headers.first? "origin" with
  | none => exact iff_of_false List.not_mem_nil fun h => by cases h.1
  | some origin =>
      by_cases hlisted : origins.contains origin = true
      · simp only [hlisted, if_true, Option.some.injEq]
        rw [List.mem_singleton, Prod.mk.injEq]
        constructor
        · rintro ⟨-, rfl⟩
          exact ⟨rfl, List.contains_iff_mem.1 hlisted⟩
        · rintro ⟨rfl, -⟩
          exact ⟨rfl, rfl⟩
      · simp only [hlisted]
        refine iff_of_false List.not_mem_nil ?_
        rintro ⟨hv, hmem⟩
        rw [Option.some.inj hv] at hlisted
        exact hlisted (List.contains_iff_mem.2 hmem)

end Http.Cors

namespace Gateway

open Http

/-- **Whom a list of sites lets in.** Take any list. It makes a policy exactly if none of its
entries, without the blanks around it, is a star. Under the policy that it makes take any answer to
any request, whoever asks and whatever the store holds. If some entry can be the value of a header,
then no site that is not on the list may read the answer; if no entry can, then every site may. And
an entry that can be the value of a header may always read the answer to a request of its own. -/
theorem allowedOrigins_spec (allowed : List String) :
    ((Cors.ofOrigins? allowed).isSome = true ↔ ∀ e ∈ allowed, Text.trim e ≠ "*") ∧
    ∀ policy, Cors.ofOrigins? allowed = some policy →
      ∀ tokens connections upgradable r w a,
        ((handle policy tokens connections upgradable r).run w).1 = .answer a →
        ((∃ e ∈ allowed, Headers.isAllowed (Text.trim e) = true) →
          ∀ origin, r.headers.first? "origin" = some origin →
            (∀ e ∈ allowed, Text.trim e ≠ origin) → ¬ a.Grants origin) ∧
        ((∀ e ∈ allowed, Headers.isAllowed (Text.trim e) = false) →
          ∀ origin, a.Grants origin) ∧
        ∀ e ∈ allowed, Headers.isAllowed (Text.trim e) = true →
          r.headers.first? "origin" = some (Text.trim e) → a.Grants (Text.trim e) := by
  refine ⟨Cors.ofOrigins?_isSome allowed, ?_⟩
  intro policy hpolicy tokens connections upgradable r w a ha
  have hgrants := handle_grants_iff policy tokens connections upgradable r w ha
  have hsome : ∀ e ∈ allowed, Headers.isAllowed (Text.trim e) = true →
      policy = .only (Cors.usable allowed) := by
    intro e he hallowed
    rw [Cors.ofOrigins?_eq hpolicy, if_neg]
    intro hempty
    rw [List.isEmpty_iff] at hempty
    exact List.not_mem_nil (hempty ▸ Cors.mem_usable.2 ⟨e, he, hallowed, rfl⟩)
  refine ⟨?_, ?_, ?_⟩
  · rintro ⟨e, he, hallowed⟩ origin horigin hunlisted
    rw [hgrants, hsome e he hallowed, Cors.mem_allowOrigin_only, Cors.mem_allowOrigin_only, horigin]
    -- a star is granted to nobody but a site that says it is one
    have hnot : ∀ v, ¬ (some origin = some v ∧ v ∈ Cors.usable allowed) := by
      rintro v ⟨hv, hmem⟩
      obtain ⟨e', he', -, htrim⟩ := Cors.mem_usable.1 hmem
      exact hunlisted e' he' (htrim.trans (Option.some.inj hv).symm)
    exact fun h => h.elim (hnot _) (hnot _)
  · intro hnone origin
    have hempty : Cors.usable allowed = [] := by
      refine List.eq_nil_iff_forall_not_mem.2 fun v hv => ?_
      obtain ⟨e, he, hallowed, -⟩ := Cors.mem_usable.1 hv
      rw [hnone e he] at hallowed
      cases hallowed
    rw [hgrants, Cors.ofOrigins?_eq hpolicy, hempty]
    exact Or.inl (List.mem_singleton.2 rfl)
  · intro e he hallowed horigin
    rw [hgrants, hsome e he hallowed, Cors.mem_allowOrigin_only, Cors.mem_allowOrigin_only]
    exact Or.inr ⟨horigin, Cors.mem_usable.2 ⟨e, he, hallowed, rfl⟩⟩

end Gateway

namespace Sample

/-- A site asks whether the gateway is up. -/
def visit (origin : String) : Http.Request := ⟨"GET", "/v1/health", [("origin", origin)], ""⟩

/-- The gateway answers a site under a policy. -/
def visited (policy : Http.Cors) (origin : String) : Gateway.Outcome :=
  ((Gateway.handle policy ⟨none, []⟩ 0 false (visit origin)).run default).1

/-- The answer: the gateway is up. -/
def welcome (policy : Http.Cors) (origin : String) : Http.Response :=
  { Gateway.healthResponse 0 with
    headers := policy.ordinary (visit origin) ++ (Gateway.healthResponse 0).headers }

/-- An entry that can be used, and one that cannot. -/
def mixedOrigins : List String := [" https://a.example", "https://b.example\nhttps://c.example"]

/-- Two sites in one entry, and no other entry. -/
def brokenOrigins : List String := ["https://a.example\nhttps://b.example"]

/-- The default settings with a list of sites. -/
def settingsFor (origins : List String) : Settings :=
  { Settings.standard with
    gateway := { Settings.Gateway.standard with allowedOrigins := origins } }

end Sample

namespace Gateway

/-- With one entry that can be used, another site is shut out and the site of the entry is let
in. -/
theorem allowedOrigins_spec_mixed :
    let policy := Http.Cors.only ["https://a.example"]
    let other := Sample.welcome policy "https://evil.example"
    let listed := Sample.welcome policy "https://a.example"
    Http.Cors.ofOrigins? Sample.mixedOrigins = some policy ∧
      (Sample.visited policy "https://evil.example" = .answer other ∧
        ¬ other.Grants "https://evil.example") ∧
      Sample.visited policy "https://a.example" = .answer listed ∧
        listed.Grants "https://a.example" := by
  intro policy other listed
  have hpolicy : Http.Cors.ofOrigins? Sample.mixedOrigins = some policy := by decide +kernel
  have hentry : " https://a.example" ∈ Sample.mixedOrigins := by decide
  have htrim : Text.trim " https://a.example" = "https://a.example" := by decide +kernel
  have hallowed : Headers.isAllowed (Text.trim " https://a.example") = true := by decide +kernel
  have hother : Sample.visited policy "https://evil.example" = .answer other := by decide +kernel
  have hlisted : Sample.visited policy "https://a.example" = .answer listed := by decide +kernel
  have hspec := (allowedOrigins_spec Sample.mixedOrigins).2 policy hpolicy ⟨none, []⟩ 0 false
  obtain ⟨hshut, -⟩ := hspec (Sample.visit "https://evil.example") default other hother
  obtain ⟨-, -, hlet⟩ := hspec (Sample.visit "https://a.example") default listed hlisted
  have hunlisted : ∀ e ∈ Sample.mixedOrigins, Text.trim e ≠ "https://evil.example" := by
    decide +kernel
  have hself := hlet " https://a.example" hentry hallowed (by rw [htrim]; rfl)
  rw [htrim] at hself
  exact ⟨hpolicy, ⟨hother, hshut ⟨_, hentry, hallowed⟩ _ rfl hunlisted⟩, hlisted, hself⟩

/-- Settings are accepted with a list of which no entry can be used: then a site that is not on the
list is let in. They are also accepted with a star, of which there is no policy. -/
theorem allowedOrigins_open :
    (Settings.load
        "\x7b\"gateway\": \x7b\"allowedOrigins\": [\"https://a.example\\nhttps://b.example\"]\x7d\x7d" =
          .ok (Sample.settingsFor Sample.brokenOrigins) ∧
      Http.Cors.ofOrigins? Sample.brokenOrigins = some .everyone ∧
      (∀ e ∈ Sample.brokenOrigins, Text.trim e ≠ "https://evil.example") ∧
      Sample.visited .everyone "https://evil.example" =
        .answer (Sample.welcome .everyone "https://evil.example") ∧
      (Sample.welcome .everyone "https://evil.example").Grants "https://evil.example") ∧
    Settings.load "\x7b\"gateway\": \x7b\"allowedOrigins\": [\"*\"]\x7d\x7d" =
        .ok (Sample.settingsFor ["*"]) ∧
      Http.Cors.ofOrigins? ["*"] = none := by
  refine ⟨⟨?_, ?_, ?_, ?_, ?_⟩, ?_, ?_⟩
  all_goals decide +kernel

end Gateway

end ControlPlane
