/-
An object in what a model says.

What a model says is JSON as a whole only if it is the object itself: numbers and words contain no
bracket (`number?_numerals`), and a quoted text ends at the latest with the first quote of the
object (`quotedText?_object`), since neither a brace nor a blank is escaped. So an object with
members, with prose in front and any text behind it, is taken if it is JSON, and if it is not,
nothing is (`extract_object`).
-/
import ControlPlane.Proofs.Extraction
import ControlPlane.Proofs.JsonOutline

set_option autoImplicit false

namespace ControlPlane

namespace Reader

open Grammar

/-! ## Quoted texts -/

/-- A character that stands for itself in a quoted text, and is no part of an escape. -/
structure Inert (c : Char) : Prop where
  /-- It is no short escape. -/
  short : shortEscape? c = none
  /-- It is no hexadecimal digit. -/
  digit : hexValue? c = none
  /-- It announces none. -/
  mark : c ≠ 'u'

variable {e : Char} {a b cs r sp : List Char} {ps : List TextPiece}

theorem Inert.ne (he : Inert e) {c : Char} (hc : shortEscape? c ≠ none) : e ≠ c := by
  rintro rfl
  exact hc he.short

/-- What is taken as a whole does not reach beyond a character that is no part of it. -/
theorem split_piece (piece : List Char) {rest : List Char} (heq : piece ++ rest = a ++ e :: b)
    (he : e ∉ piece) : ∃ a', rest = a' ++ e :: b := by
  rcases List.append_eq_append_iff.1 heq with ⟨a', -, hrest⟩ | ⟨back, hpiece, hback⟩
  · exact ⟨a', hrest⟩
  · cases back with
    | nil => exact ⟨[], hback.symm⟩
    | cons d back =>
        obtain ⟨rfl, -⟩ := List.cons.inj hback
        exact absurd (hpiece ▸ List.mem_append_right _ List.mem_cons_self) he

/-- A character that is no digit is not among the digits of a unit. -/
theorem unit?_digits {x y z w : Char} {n : Nat} (h : unit? x y z w = some n)
    (hc : hexValue? e = none) : e ∉ [x, y, z, w] := by
  unfold unit? at h
  split at h
  next hx hy hz hw =>
    intro hmem
    simp only [List.mem_cons, List.not_mem_nil, or_false] at hmem
    rcases hmem with rfl | rfl | rfl | rfl
    · cases hc.symm.trans hx
    · cases hc.symm.trans hy
    · cases hc.symm.trans hz
    · cases hc.symm.trans hw
  next => cases h

/-- A quoted text ends in front of such a character, or the reader takes it up there. -/
theorem textPieces?_reaches (he : Inert e) (hcs : cs = a ++ e :: b)
    (h : textPieces? cs = some (ps, r)) :
    (∃ a', r = a' ++ e :: b) ∨ ∃ ps', textPieces? (e :: b) = some (ps', r) := by
  have hquote : e ≠ '"' := he.ne (by decide)
  have hslash : e ≠ '\\' := he.ne (by decide)
  -- the cases are those of the reader; where it goes on, it has taken one piece
  fun_induction textPieces? cs generalizing a ps with
  | case1 => simp at hcs
  | case2 rest =>
      obtain ⟨rfl, rfl⟩ := Prod.mk.inj (Option.some.inj h)
      exact Or.inl (split_piece ['"'] hcs (by simpa using hquote))
  | case3 x y z w rest n hunit ih =>
      obtain ⟨⟨ps', r'⟩, hrest, heq⟩ := Option.map_eq_some_iff.1 h
      obtain ⟨-, rfl⟩ := Prod.mk.inj heq
      have hdigits := unit?_digits hunit he.digit
      obtain ⟨a', ha'⟩ := split_piece ['\\', 'u', x, y, z, w] hcs
        (by simpa [hslash, he.mark] using hdigits)
      exact ih ha' hrest
  | case4 => cases h
  | case5 x rest _ c hx ih =>
      obtain ⟨⟨ps', r'⟩, hrest, heq⟩ := Option.map_eq_some_iff.1 h
      obtain ⟨-, rfl⟩ := Prod.mk.inj heq
      have hshort : e ≠ x := he.ne (by rw [hx]; exact Option.some_ne_none c)
      obtain ⟨a', ha'⟩ := split_piece ['\\', x] hcs (by simp [hslash, hshort])
      exact ih ha' hrest
  | case6 => cases h
  | case7 => cases h
  | case8 c rest _ _ _ hplain ih =>
      cases a with
      | nil =>
          -- the reader has got there
          obtain ⟨rfl, rfl⟩ := List.cons.inj hcs
          exact Or.inr ⟨ps, by rw [textPieces?_plain hquote hslash (not_or.1 hplain).2, h]⟩
      | cons d a =>
          obtain ⟨rfl, rfl⟩ := List.cons.inj hcs
          obtain ⟨⟨ps', r'⟩, hrest, heq⟩ := Option.map_eq_some_iff.1 h
          obtain ⟨-, rfl⟩ := Prod.mk.inj heq
          exact ih rfl hrest

/-- A control character may not stand in a quoted text. -/
theorem textPieces?_control {c : Char} (hquote : c ≠ '"') (hslash : c ≠ '\\') (hc : c.toNat < 32)
    (rest : List Char) : textPieces? (c :: rest) = none := by
  rw [textPieces?]
  · exact if_pos (Or.inr hc)
  · exact hquote
  · exact fun _ _ _ _ _ heq => absurd heq hslash
  · exact fun _ _ heq => absurd heq hslash

/-- Behind blanks a quote ends a quoted text. -/
theorem textPieces?_blanks (hsp : Blanks sp) {more : List Char}
    (h : textPieces? (sp ++ '"' :: more) = some (ps, r)) : r = more := by
  induction sp generalizing ps with
  | nil =>
      rw [List.nil_append, textPieces?] at h
      exact (Prod.mk.inj (Option.some.inj h)).2.symm
  | cons c sp ih =>
      obtain ⟨hc, hblanks⟩ := List.forall_mem_cons.1 hsp
      rw [List.cons_append] at h
      have hspace : c = ' ' := by
        simp only [isSpace, Bool.or_eq_true, decide_eq_true_eq] at hc
        rcases hc with ((rfl | rfl) | rfl) | rfl
        · rfl
        -- the other blanks may not stand in a text
        all_goals
          rw [textPieces?_control (by decide) (by decide) (by decide)] at h
          cases h
      subst hspace
      rw [textPieces?_plain (by decide) (by decide) (by decide)] at h
      obtain ⟨⟨ps', r'⟩, hrest, heq⟩ := Option.map_eq_some_iff.1 h
      obtain ⟨-, rfl⟩ := Prod.mk.inj heq
      exact ih hblanks hrest

/-- A quoted text ends at the latest with the first quote behind a brace, if there is nothing but
blanks between them. -/
theorem quotedText?_object {more : List Char} {s : Option String} (hsp : Blanks sp)
    (h : quotedText? (a ++ '{' :: (sp ++ '"' :: more)) = some (s, [])) : more = [] := by
  obtain ⟨⟨ps, r⟩, hpieces, heq⟩ := Option.map_eq_some_iff.1 h
  obtain ⟨-, rfl⟩ := Prod.mk.inj heq
  have hbrace : Inert '{' := ⟨by decide, by decide, by decide⟩
  rcases textPieces?_reaches hbrace rfl hpieces with ⟨a', ha'⟩ | ⟨ps', hps'⟩
  · simp at ha'
  · rw [textPieces?_plain (by decide) (by decide) (by decide)] at hps'
    obtain ⟨⟨ps'', r''⟩, hrest, heq'⟩ := Option.map_eq_some_iff.1 hps'
    obtain ⟨-, rfl⟩ := Prod.mk.inj heq'
    exact (textPieces?_blanks hsp hrest).symm

/-! ## Numbers -/

/-- Whether a character may stand in a number. -/
def isNumeral (c : Char) : Bool :=
  isDigit c || c = '+' || c = '-' || c = '.' || isExponentMark c

theorem isNumeral_of_isDigit {c : Char} (hc : isDigit c = true) : isNumeral c = true := by
  rw [isNumeral, hc]
  rfl

/-- The digits in front of a text are numerals. -/
theorem isNumeral_of_mem_digits {ds left : List Char} (h : takeDigits cs = (ds, left)) :
    ∀ c ∈ ds, isNumeral c = true := by
  obtain ⟨rfl, -⟩ := Prod.mk.inj h
  exact fun c hc => isNumeral_of_isDigit (List.mem_takeWhile_imp hc)

/-- An exponent's digits that are read to the end are numerals. -/
theorem exponentDigits?_numerals {negative : Bool} {x : Int}
    (h : exponentDigits? negative cs = some (x, [])) : ∀ c ∈ cs, isNumeral c = true := by
  unfold exponentDigits? at h
  cases htake : takeDigits cs with
  | mk ds left =>
      rw [htake] at h
      cases ds with
      | nil => cases h
      | cons d ds =>
          obtain ⟨-, rfl⟩ := Prod.mk.inj (Option.some.inj h)
          rw [(takeDigits_spec htake).1, List.append_nil]
          exact isNumeral_of_mem_digits htake

/-- So is an exponent. -/
theorem exponent?_numerals {x : Int} (h : exponent? cs = some (x, [])) :
    ∀ c ∈ cs, isNumeral c = true := by
  cases cs with
  | nil => exact List.forall_mem_nil _
  | cons c cs =>
      by_cases hplus : c = '+'
      · subst hplus
        have hdigits : exponentDigits? false cs = some (x, []) := h
        exact List.forall_mem_cons.2 ⟨rfl, exponentDigits?_numerals hdigits⟩
      · by_cases hminus : c = '-'
        · subst hminus
          have hdigits : exponentDigits? true cs = some (x, []) := h
          exact List.forall_mem_cons.2 ⟨rfl, exponentDigits?_numerals hdigits⟩
        · rw [exponent?_bare hplus hminus] at h
          exact exponentDigits?_numerals h

/-- So is a number from its exponent on. -/
theorem withExponent?_numerals {negative : Bool} {m : Mantissa} {n : Option JsonNumber}
    (h : withExponent? negative m cs = some (n, [])) : ∀ c ∈ cs, isNumeral c = true := by
  cases cs with
  | nil => exact List.forall_mem_nil _
  | cons c cs =>
      rw [withExponent?] at h
      split at h
      next hmark =>
        split at h
        next x rest hexponent =>
          obtain ⟨-, rfl⟩ := Prod.mk.inj (Option.some.inj h)
          exact List.forall_mem_cons.2 ⟨by simp [isNumeral, hmark], exponent?_numerals hexponent⟩
        next => cases h
      next => cases h

/-- So is a number from the end of its whole part on. -/
theorem afterWhole?_numerals {negative : Bool} {m : Mantissa} {n : Option JsonNumber}
    (h : afterWhole? negative m cs = some (n, [])) : ∀ c ∈ cs, isNumeral c = true := by
  unfold afterWhole? at h
  split at h
  next rest =>
    split at h
    next => cases h
    next fs left hsome htake =>
      rw [(takeDigits_spec htake).1]
      refine List.forall_mem_cons.2 ⟨rfl, List.forall_mem_append.2 ⟨?_, ?_⟩⟩
      · exact isNumeral_of_mem_digits htake
      · exact withExponent?_numerals h
  next c rest hpoint =>
    split at h
    next => exact withExponent?_numerals h
    next => cases h
  next => exact List.forall_mem_nil _

/-- So is a number without its sign. -/
theorem magnitude?_numerals {negative : Bool} {n : Option JsonNumber}
    (h : magnitude? negative cs = some (n, [])) : ∀ c ∈ cs, isNumeral c = true := by
  obtain ⟨ds, left, htake, hsome, hzero⟩ := magnitude?_shape h
  rw [magnitude?_eq htake hsome hzero] at h
  rw [(takeDigits_spec htake).1]
  exact List.forall_mem_append.2 ⟨isNumeral_of_mem_digits htake, afterWhole?_numerals h⟩

/-- There is nothing but digits, signs, points and marks in a number. -/
theorem number?_numerals {n : Option JsonNumber} (h : number? cs = some (n, [])) :
    ∀ c ∈ cs, isNumeral c = true := by
  unfold number? at h
  split at h
  next rest => exact List.forall_mem_cons.2 ⟨rfl, magnitude?_numerals h⟩
  next => exact magnitude?_numerals h

end Reader

namespace Text

/-- What is left after trimming begins with no blank. -/
theorem head_trimChars {cs rest : List Char} {c : Char} (h : trimChars cs = c :: rest) :
    isBlank c = false := by
  rw [trimChars] at h
  cases hstart : trimStart cs with
  | nil =>
      rw [hstart] at h
      cases h
  | cons d ds =>
      have hd : isBlank d = false := by
        have hhead := List.head?_dropWhile_not isBlank cs
        rw [trimStart] at hstart
        rwa [hstart, List.head?_cons] at hhead
      have hlast := trimEnd_last [] hd ds
      rw [List.nil_append] at hlast
      rw [hstart, hlast] at h
      rwa [← (List.cons.inj h).1]

end Text

namespace Answer

open Reader Grammar

variable {cs used : List Char} {ms : List (Option String × Outline)} {o : Outline}

/-! ## Objects -/

theorem opens_of_isSpace {c : Char} (hc : isSpace c = true) : opens c = false := by
  rw [Bool.eq_false_iff]
  intro hopens
  have hblank := isBlank_of_isSpace hc
  rw [not_isBlank_of_opens hopens] at hblank
  cases hblank

theorem closes_of_isSpace {c : Char} (hc : isSpace c = true) : closes c = false := by
  rw [Bool.eq_false_iff]
  intro hcloses
  have hblank := isBlank_of_isSpace hc
  rw [not_isBlank_of_closes hcloses] at hblank
  cases hblank

/-- Members begin with a quote, and there is something behind it. -/
theorem members_quote (h : Members true cs ms) (hne : ms ≠ []) :
    ∃ sp more, Blanks sp ∧ cs = sp ++ '"' :: more ∧ more ≠ [] := by
  cases h with
  | close => exact absurd rfl hne
  | @member _ lead name sp sp' cs rest s o ms hlead hname hsp hsp' hvalue hrest =>
      cases hlead with
      | first hlead => exact ⟨lead, _, hlead, rfl, by simp⟩

/-- An object is in its brackets. -/
theorem object_bracketed (h : Members true cs ms) : Bracketed ('\x7b' :: cs) :=
  ⟨⟨'\x7b', cs, rfl, rfl⟩, (value_opens (.object h) rfl).2⟩

/-- Of the texts of values only those of objects and lists contain an object with members. -/
theorem value_shows (hvalue : Value used o) (h : Members true cs ms) (hne : ms ≠ [])
    (hshows : Shows used ('\x7b' :: cs)) : ∃ c rest, used = c :: rest ∧ opens c = true := by
  obtain ⟨p, q, heq, -⟩ := hshows
  have hbrace : '\x7b' ∈ used := by
    rw [heq]
    simp
  cases hvalue with
  | null => exact absurd hbrace (by decide)
  | yes => exact absurd hbrace (by decide)
  | no => exact absurd hbrace (by decide)
  | string hquoted =>
      obtain ⟨sp, more, hsp, rfl, hmore⟩ := members_quote h hne
      cases p with
      | nil => cases heq
      | cons e p =>
          -- the quoted text would end within the object
          obtain ⟨-, rfl⟩ := List.cons.inj heq
          rw [List.cons_append, List.append_assoc, List.cons_append] at hquoted
          exact absurd (List.append_eq_nil_iff.1 (quotedText?_object hsp hquoted)).1 hmore
  | number hnumber => exact absurd (number?_numerals hnumber _ hbrace) (by decide)
  | array => exact ⟨_, _, rfl, rfl⟩
  | object => exact ⟨_, _, rfl, rfl⟩

theorem head_plain {raw rest : List Char} {c : Char} (h : plain raw = c :: rest) :
    Text.isBlank c = false := by
  unfold plain unfenced at h
  split at h
  next => exact Text.head_trimChars h
  next => exact Text.head_trimChars h

/-- If what is left is JSON with an object in it, it begins with a bracket. -/
theorem plain_opens {raw : List Char} (h : Members true cs ms) (hne : ms ≠ [])
    (hshows : Shows (plain raw) ('\x7b' :: cs)) (hjson : isJson (plain raw) = true) :
    ∃ c rest, plain raw = c :: rest ∧ opens c = true := by
  obtain ⟨o, r, hread, hr, hkept⟩ := isJson_iff.1 hjson
  obtain ⟨v, hv⟩ := Option.isSome_iff_exists.1 hkept
  obtain ⟨hcut, -, -⟩ := cuts (2 * (plain raw).length + 2)
  obtain ⟨used, hused, hvalue⟩ := hcut hread (Outline.toJson?_spec o hv).whole
  obtain ⟨sp, hsp, hplain⟩ := blanks_skip (plain raw)
  have hbracketed := object_bracketed h
  -- blanks in front and behind are no brackets
  have hbehind : Shows (used ++ r) ('\x7b' :: cs) := by
    rw [hplain, hused] at hshows
    exact hshows.of_append_front hbracketed fun c hc => opens_of_isSpace (hsp c hc)
  have hwithin : Shows used ('\x7b' :: cs) :=
    hbehind.of_append_back hbracketed fun c hc =>
      closes_of_isSpace (List.dropWhile_eq_nil_iff.1 hr c hc)
  obtain ⟨c, rest, rfl, hc⟩ := value_shows hvalue h hne hwithin
  cases sp with
  | nil => exact ⟨c, rest ++ r, by rw [hplain, hused]; rfl, hc⟩
  | cons d sp =>
      have hblank := isBlank_of_isSpace (hsp d List.mem_cons_self)
      rw [head_plain hplain] at hblank
      cases hblank

/-- Another object or list that begins there is the object itself. -/
theorem isJson_of_keeps {d q q' : List Char} (h : Members true cs ms) (hkeeps : Keeps d o)
    (heq : d ++ q = '\x7b' :: cs ++ q') : isJson ('\x7b' :: cs) = true := by
  cases d with
  | nil => exact absurd hkeeps.1.length_pos (Nat.lt_irrefl 0)
  | cons c d =>
      have hobject : Value ('\x7b' :: cs) (.object ms true) := .object h
      obtain ⟨rfl, -⟩ := List.cons.inj heq
      have hsame := hkeeps.1.unique hobject (value_opens hkeeps.1 rfl).1 (fun _ => nofun) heq
      rw [← hsame]
      exact (hkeeps.isContainer rfl).json

/-- An object with members, with prose in front and any text behind it, is taken if it is JSON;
otherwise nothing is. -/
theorem extract_object {raw : String} (h : Members true cs ms) (hne : ms ≠ [])
    (hshows : Shows raw.toList ('\x7b' :: cs)) :
    extract raw =
      if isJson ('\x7b' :: cs) then .ok (String.ofList ('\x7b' :: cs))
      else .error .noCompleteJsonInAnswer := by
  have hbracketed := object_bracketed h
  have hplain := hshows.plain hbracketed
  split
  next hjson =>
    have hcarries : Carries raw.toList ('\x7b' :: cs) :=
      ⟨⟨hbracketed.first, hbracketed.last, hjson⟩, hshows⟩
    exact hcarries.extract_iff.2 (plain_opens h hne hplain)
  next hjson =>
    obtain ⟨c, rest, q, hc, hdrop, heq⟩ := hplain.dropWhile hbracketed
    have hwhole : ¬ isJson (plain raw.toList) = true := by
      intro hwhole
      obtain ⟨e, tail, hfirst, he⟩ := plain_opens h hne hplain hwhole
      rw [hfirst, List.dropWhile_cons_of_neg (by rw [he]; decide)] at hdrop
      rw [hfirst] at hwhole
      obtain ⟨d, sp, o, hd, -, hkeeps⟩ := isJson_opens hwhole he
      exact hjson (isJson_of_keeps h hkeeps (by rw [← hd, hdrop, heq]))
    have hscan : scan? (c :: rest) = none := by
      refine Option.eq_none_iff_forall_ne_some.2 fun d hd => ?_
      obtain ⟨hcontainer, q', hq'⟩ := (scan?_some hc).1 hd
      obtain ⟨o, hkeeps⟩ := hcontainer.keeps
      exact hjson (isJson_of_keeps h hkeeps (by rw [← hq', heq]))
    rw [extract, extractChars_eq, if_neg hwhole, scanned, hdrop]
    dsimp only
    rw [hscan]
    rfl

end Answer

end ControlPlane
