/-
Who is let in.

A token stands for the first user who has it, or else for the operator who has it (`StandsFor`);
what is configured but blank, nobody has. Where nothing else is configured everybody is let in. Else
a request is let in if one of its tokens stands for somebody, the one of its head before the one of
its address, and the session is of whomever the first such token stands for
(`authenticate_configured`). A blank operator's token lets nobody in who presents it
(`authenticate_blank`).
-/
import ControlPlane.Proofs.Admission

set_option autoImplicit false

namespace ControlPlane

/-- The user has the token, apart from the blanks around it. -/
def Settings.UserToken.Has (u : Settings.UserToken) (token : String) : Prop :=
  Text.isBlankText u.token = false ∧ Text.trim u.token = token

namespace Access

/-! ## What is configured -/

variable {operator : Option String} {users : List Settings.UserToken} {token : String}
  {c : Credentials} {s : Session}

/-- The operator has the token. -/
def OperatorHas (operator : Option String) (token : String) : Prop :=
  operator = some token ∧ Text.isBlankText token = false

/-- Somebody has the token. -/
def Known (operator : Option String) (users : List Settings.UserToken) (token : String) : Prop :=
  OperatorHas operator token ∨ ∃ u ∈ users, u.Has token

/-- Somebody has a token. -/
def Configured (operator : Option String) (users : List Settings.UserToken) : Prop :=
  ∃ token, Known operator users token

/-- The request carries the token, in its head or in its address. -/
def Credentials.Carries (c : Credentials) (token : String) : Prop :=
  c.bearer = some token ∨ c.query = some token

/-- Whose session a token opens. -/
inductive StandsFor (operator : Option String) (users : List Settings.UserToken)
    (token : String) : Session → Prop
  /-- The first user who has it. -/
  | user (front back : List Settings.UserToken) (u : Settings.UserToken)
      (hsplit : users = front ++ u :: back) (hu : u.Has token)
      (hfront : ∀ v ∈ front, ¬ v.Has token) : StandsFor operator users token ⟨some u.userId⟩
  /-- The operator, if no user has it. -/
  | operator (h : OperatorHas operator token) (husers : ∀ u ∈ users, ¬ u.Has token) :
      StandsFor operator users token .operator

/-- Who is stood for is known. -/
theorem StandsFor.known (h : StandsFor operator users token s) : Known operator users token := by
  cases h with
  | user front back u hsplit hu =>
      exact Or.inr ⟨u, hsplit ▸ List.mem_append_right _ List.mem_cons_self, hu⟩
  | operator h => exact Or.inl h

namespace Tokens

/-! ## One token -/

/-- The user whose token is presented. -/
def user? (tokens : Tokens) (presented : String) : Option Settings.UserToken :=
  tokens.users.find? fun u => secureEq presented (Text.trim u.token)

/-- The user of a token is the first whose token is not blank and is the one presented. -/
theorem user?_ofSettings :
    (ofSettings operator users).user? token =
      users.find? fun u => !Text.isBlankText u.token && secureEq token (Text.trim u.token) := by
  simp only [user?, ofSettings, List.find?_filter, Bool.decide_and, Bool.decide_eq_true]

/-- The comparison finds out whether a user has a token. -/
theorem has_iff {u : Settings.UserToken} :
    (!Text.isBlankText u.token && secureEq token (Text.trim u.token)) = true ↔ u.Has token := by
  rw [Bool.and_eq_true, Bool.not_eq_true', secureEq_iff, eq_comm (a := token)]
  rfl

/-- It is the first user who has the token. -/
theorem user?_eq_some_iff {u : Settings.UserToken} :
    (ofSettings operator users).user? token = some u ↔
      ∃ front back, users = front ++ u :: back ∧ u.Has token ∧ ∀ v ∈ front, ¬ v.Has token := by
  rw [user?_ofSettings, List.find?_eq_some_iff_append, has_iff]
  simp only [Bool.not_eq_true', ← Bool.not_eq_true, has_iff]
  constructor
  · rintro ⟨hu, front, back, hsplit, hfront⟩
    exact ⟨front, back, hsplit, hu, hfront⟩
  · rintro ⟨front, back, hsplit, hu, hfront⟩
    exact ⟨hu, front, back, hsplit, hfront⟩

/-- There is no user of a token if nobody has it. -/
theorem user?_eq_none_iff :
    (ofSettings operator users).user? token = none ↔ ∀ u ∈ users, ¬ u.Has token := by
  simp only [user?_ofSettings, List.find?_eq_none, has_iff]

/-- Where no user has the token, it is compared with the operator's. -/
theorem session?_eq (tokens : Tokens) (presented : String) :
    tokens.session? presented =
      match tokens.user? presented with
      | some u => some ⟨some u.userId⟩
      | none => if tokens.operator = some presented then some .operator else none := by
  rw [session?, ← user?]
  cases tokens.user? presented with
  | some u => rfl
  | none =>
      cases tokens.operator with
      | none => rfl
      | some expected =>
          simp only [secureEq_iff, Option.some.injEq, eq_comm (a := presented)]

/-- The token of the operator is the one in the settings, unless it is blank. -/
theorem ofSettings_operator :
    (ofSettings operator users).operator = some token ↔ OperatorHas operator token := by
  rw [ofSettings, Option.filter_eq_some_iff, Bool.not_eq_true']
  rfl

/-- A token opens the session of whomever it stands for. -/
theorem session?_iff :
    (ofSettings operator users).session? token = some s ↔ StandsFor operator users token s := by
  rw [session?_eq]
  cases huser : (ofSettings operator users).user? token with
  | some u =>
      obtain ⟨front, back, hsplit, hu, hfront⟩ := user?_eq_some_iff.1 huser
      constructor
      · intro h
        obtain rfl := Option.some.inj h
        exact .user front back u hsplit hu hfront
      · intro h
        cases h with
        | user front' back' u' hsplit' hu' hfront' =>
            -- there is one first user
            have hother : (ofSettings operator users).user? token = some u' :=
              user?_eq_some_iff.2 ⟨front', back', hsplit', hu', hfront'⟩
            rw [Option.some.inj (huser.symm.trans hother)]
        | operator _ husers =>
            exact absurd hu (husers u (hsplit ▸ List.mem_append_right _ List.mem_cons_self))
  | none =>
      have husers := user?_eq_none_iff.1 huser
      dsimp only
      constructor
      · intro h
        split at h
        next hoperator =>
          obtain rfl := Option.some.inj h
          exact .operator (ofSettings_operator.1 hoperator) husers
        next => cases h
      · intro h
        cases h with
        | user front back u hsplit hu =>
            exact absurd hu (husers u (hsplit ▸ List.mem_append_right _ List.mem_cons_self))
        | operator hoperator => rw [if_pos (ofSettings_operator.2 hoperator)]

/-- Whatever somebody has stands for somebody. -/
theorem known_iff : Known operator users token ↔ ∃ s, StandsFor operator users token s := by
  constructor
  · intro h
    cases huser : (ofSettings operator users).user? token with
    | some u =>
        obtain ⟨front, back, hsplit, hu, hfront⟩ := user?_eq_some_iff.1 huser
        exact ⟨_, .user front back u hsplit hu hfront⟩
    | none =>
        have husers := user?_eq_none_iff.1 huser
        rcases h with h | ⟨u, hu, hhas⟩
        · exact ⟨_, .operator h husers⟩
        · exact absurd hhas (husers u hu)
  · rintro ⟨s, hs⟩
    exact hs.known

/-- A token opens no session if nobody has it. -/
theorem session?_eq_none_iff :
    (ofSettings operator users).session? token = none ↔ ¬ Known operator users token := by
  rw [Option.eq_none_iff_forall_ne_some, known_iff, not_exists]
  simp only [ne_eq, session?_iff]

/-! ## A request -/

/-- Nothing is asked for where nobody has a token. -/
theorem open_iff :
    ((ofSettings operator users).operator.isNone && (ofSettings operator users).users.isEmpty) =
      true ↔ ¬ Configured operator users := by
  rw [Bool.and_eq_true, Option.isNone_iff_eq_none, List.isEmpty_iff, Configured, not_exists]
  constructor
  · rintro ⟨hoperator, husers⟩ token (h | ⟨u, hu, hhas⟩)
    · cases (ofSettings_operator.2 h).symm.trans hoperator
    · have hkept : u ∈ (ofSettings operator users).users :=
        List.mem_filter.2 ⟨hu, by rw [hhas.1, Bool.not_false]⟩
      rw [husers] at hkept
      cases hkept
  · intro h
    constructor
    · refine Option.eq_none_iff_forall_ne_some.2 fun token htoken => h token (Or.inl ?_)
      exact ofSettings_operator.1 htoken
    · refine List.eq_nil_iff_forall_not_mem.2 fun u hu => ?_
      obtain ⟨hmem, hblank⟩ := List.mem_filter.1 hu
      exact h (Text.trim u.token) (Or.inr ⟨u, hmem, by simpa using hblank, rfl⟩)

/-- The token of the head is tried first, and the one of the address if that opens nothing. -/
theorem tried_iff {c : Credentials} {s : Session} (f : String → Option Session) :
    (c.bearer.toList ++ c.query.toList).findSome? f = some s ↔
      (∃ t, c.bearer = some t ∧ f t = some s) ∨
        ((∀ t, c.bearer = some t → f t = none) ∧ ∃ t, c.query = some t ∧ f t = some s) := by
  rw [List.findSome?_append, Option.or_eq_some_iff]
  have hone : ∀ (o : Option String) (r : Option Session),
      o.toList.findSome? f = r ↔ o.bind f = r := by
    intro o r
    cases o with
    | none => rfl
    | some t =>
        rw [Option.toList_some, List.findSome?_cons, Option.bind_some]
        cases f t <;> rfl
  simp only [hone, Option.bind_eq_some_iff, Option.bind_eq_none_iff]

/-- Where somebody has a token, a request is let in for the first of its tokens that stands for
anybody. -/
theorem authenticate_ok_iff (h : Configured operator users) :
    (ofSettings operator users).authenticate c = .ok s ↔
      (∃ t, c.bearer = some t ∧ StandsFor operator users t s) ∨
        ((∀ t, c.bearer = some t → ¬ Known operator users t) ∧
          ∃ t, c.query = some t ∧ StandsFor operator users t s) := by
  simp only [← session?_iff, ← session?_eq_none_iff]
  rw [authenticate, if_neg (mt open_iff.1 (not_not_intro h)), ← tried_iff]
  split
  next found hfound => rw [hfound, Except.ok.injEq, Option.some.injEq]
  next hnone => simp [hnone]

/-- A request without a token that somebody has is refused. -/
theorem authenticate_error (h : Configured operator users)
    (hnone : ∀ t, c.Carries t → ¬ Known operator users t) :
    (ofSettings operator users).authenticate c = .error .badToken := by
  cases hauth : (ofSettings operator users).authenticate c with
  | ok s =>
      rcases (authenticate_ok_iff h).1 hauth with ⟨t, ht, hs⟩ | ⟨-, t, ht, hs⟩
      · exact absurd hs.known (hnone t (Or.inl ht))
      · exact absurd hs.known (hnone t (Or.inr ht))
  | error e =>
      rw [authenticate, if_neg (mt open_iff.1 (not_not_intro h))] at hauth
      split at hauth
      next => cases hauth
      next => exact hauth.symm

/-- A request with a token that somebody has is let in, be its other token wrong or not. -/
theorem authenticate_isOk (h : Configured operator users) {t : String} (ht : c.Carries t)
    (hknown : Known operator users t) :
    ∃ s, (ofSettings operator users).authenticate c = .ok s := by
  simp only [authenticate_ok_iff h]
  by_cases hbearer : ∃ b, c.bearer = some b ∧ Known operator users b
  · obtain ⟨b, hb, hbknown⟩ := hbearer
    obtain ⟨s, hs⟩ := known_iff.1 hbknown
    exact ⟨s, Or.inl ⟨b, hb, hs⟩⟩
  · have hwrong : ∀ b, c.bearer = some b → ¬ Known operator users b :=
      fun b hb hbknown => hbearer ⟨b, hb, hbknown⟩
    rcases ht with ht | ht
    · exact absurd hknown (hwrong t ht)
    · obtain ⟨s, hs⟩ := known_iff.1 hknown
      exact ⟨s, Or.inr ⟨hwrong, t, ht, hs⟩⟩

/-- **Who is let in.** Tokens are compared byte by byte, and are found equal exactly if they are.
Where nobody has a token that is not blank, every request gets the operator's session. Where
somebody has one, a request is let in exactly if it carries a token that the operator or a user has,
and it is refused else. The session is of whomever the first of its tokens stands for that anybody
has: the first user in the list who has it, or the operator, if no user has it. So a wrong token in
the head hides no right one in the address, and what a user has never opens the operator's
session. -/
theorem authenticate_configured (operator : Option String) (users : List Settings.UserToken)
    (c : Credentials) :
    (∀ a b : String, secureEq a b = true ↔ a = b) ∧
    (¬ Configured operator users →
      (ofSettings operator users).authenticate c = .ok .operator) ∧
    (Configured operator users →
      ((∃ s, (ofSettings operator users).authenticate c = .ok s) ↔
        ∃ t, c.Carries t ∧ Known operator users t) ∧
      ((∀ t, c.Carries t → ¬ Known operator users t) →
        (ofSettings operator users).authenticate c = .error .badToken) ∧
      (∀ s, (ofSettings operator users).authenticate c = .ok s ↔
        (∃ t, c.bearer = some t ∧ StandsFor operator users t s) ∨
          ((∀ t, c.bearer = some t → ¬ Known operator users t) ∧
            ∃ t, c.query = some t ∧ StandsFor operator users t s)) ∧
      ((ofSettings operator users).authenticate c = .ok .operator →
        ∃ t, c.Carries t ∧ OperatorHas operator t ∧ ∀ u ∈ users, ¬ u.Has t)) := by
  refine ⟨secureEq_iff, fun h => ?_, fun h => ⟨⟨?_, ?_⟩, ?_, fun s => ?_, ?_⟩⟩
  · rw [authenticate, if_pos (open_iff.2 h)]
  · rintro ⟨s, hs⟩
    rcases (authenticate_ok_iff h).1 hs with ⟨t, ht, hfor⟩ | ⟨-, t, ht, hfor⟩
    · exact ⟨t, Or.inl ht, hfor.known⟩
    · exact ⟨t, Or.inr ht, hfor.known⟩
  · rintro ⟨t, ht, hknown⟩
    exact authenticate_isOk h ht hknown
  · exact authenticate_error h
  · exact authenticate_ok_iff h
  · intro hs
    -- nothing but the operator's own token stands for the operator
    rcases (authenticate_ok_iff h).1 hs with ⟨t, ht, hfor⟩ | ⟨-, t, ht, hfor⟩
    · cases hfor with
      | operator hhas husers => exact ⟨t, Or.inl ht, hhas, husers⟩
    · cases hfor with
      | operator hhas husers => exact ⟨t, Or.inr ht, hhas, husers⟩

end Tokens

end Access

namespace Sample

/-- Users of whom one has a blank token and two have the same. -/
def threeUsers : List Settings.UserToken := [⟨" ", 1⟩, ⟨" seven ", 7⟩, ⟨"seven", 8⟩]

end Sample

namespace Access

namespace Tokens

/-- The case of a wrong token in the head and a user's in the address. -/
theorem authenticate_configured_seven :
    Configured (some "tower") Sample.threeUsers ∧
      ¬ Known (some "tower") Sample.threeUsers "nope" ∧
      (ofSettings (some "tower") Sample.threeUsers).authenticate ⟨some "nope", some "seven"⟩ =
        .ok ⟨some 7⟩ := by
  have htrim : Text.trim " seven " = "seven" := by decide +kernel
  have hseven : StandsFor (some "tower") Sample.threeUsers "seven" ⟨some 7⟩ := by
    refine .user [⟨" ", 1⟩] [⟨"seven", 8⟩] ⟨" seven ", 7⟩ rfl ⟨by decide +kernel, htrim⟩ ?_
    intro v hv hhas
    obtain rfl := List.mem_singleton.1 hv
    exact absurd hhas.1 (by decide +kernel)
  have hnope : ¬ Known (some "tower") Sample.threeUsers "nope" := by
    rintro (h | ⟨u, hu, -, hsame⟩)
    · exact absurd h.1 (by decide)
    · have hother : ∀ u ∈ Sample.threeUsers, Text.trim u.token ≠ "nope" := by decide +kernel
      exact hother u hu hsame
  have hconfigured : Configured (some "tower") Sample.threeUsers := ⟨"seven", hseven.known⟩
  obtain ⟨-, -, hclosed⟩ := authenticate_configured (some "tower") Sample.threeUsers
    ⟨some "nope", some "seven"⟩
  obtain ⟨-, -, hsession, -⟩ := hclosed hconfigured
  refine ⟨hconfigured, hnope, (hsession _).2 (Or.inr ⟨fun t ht => ?_, "seven", rfl, hseven⟩)⟩
  rwa [← Option.some.inj ht]

/-- A blank token of the operator lets nobody in, not even who presents it as it is, while the token
of a user keeps everybody else out. -/
theorem authenticate_blank :
    Configured (some "  ") [⟨"seven", 7⟩] ∧
      (⟨none, some "  "⟩ : Credentials).Carries "  " ∧
      (ofSettings (some "  ") [⟨"seven", 7⟩]).authenticate ⟨none, some "  "⟩ =
        .error .badToken := by
  refine ⟨⟨"seven", Or.inr ⟨⟨"seven", 7⟩, List.mem_singleton_self _, ?_⟩⟩, Or.inr rfl, ?_⟩
  · exact ⟨by decide +kernel, by decide +kernel⟩
  · decide +kernel

end Tokens

end Access

end ControlPlane
