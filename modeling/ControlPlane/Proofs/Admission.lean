/-
Whose session a token opens.

The settings are checked when their file is loaded: no user's token is blank, and none is the
operator's. The token of the environment is put in after that, and two users' tokens are never
compared with each other. So a token of the settings in force opens the session it is meant for
under a condition that the check does not ensure (`opensOwn_iff`): users with one token are one
user, and the token of the environment is no user's. The two ways to break it are at the end.

The look-up is read as one about equality first (`secureEq_iff`), and what is cut away from a token
and what counts as blank are brought together (`Text.nonBlank?_eq`); after that the settings in
force need to be opened only once, for `inForce_tokens`.
-/
import ControlPlane.Access
import ControlPlane.Proofs.Blank
import ControlPlane.Proofs.Bytes
import Mathlib.Data.List.Basic

set_option autoImplicit false

namespace ControlPlane

namespace Access

/-! ## Comparing -/

theorem utf8_inj {a b : String} (h : a.toUTF8.toList = b.toUTF8.toList) : a = b := by
  rw [Text.toList_byteArray, Text.toList_byteArray] at h
  exact String.toByteArray_inj.1 (ByteArray.ext (Array.toList_inj.1 h))

theorem foldl_or_eq_zero (xs : List UInt8) (d : UInt8) :
    xs.foldl (· ||| ·) d = 0 ↔ d = 0 ∧ ∀ x ∈ xs, x = 0 := by
  induction xs generalizing d with
  | nil => simp
  | cons x rest ih =>
      rw [List.foldl_cons, ih, UInt8.or_eq_zero_iff, List.forall_mem_cons, and_assoc]

theorem zipWith_xor_eq_zero {xs ys : List UInt8} (hlen : xs.length = ys.length) :
    (∀ z ∈ List.zipWith (· ^^^ ·) xs ys, z = 0) ↔ xs = ys := by
  induction xs generalizing ys with
  | nil =>
      rw [List.eq_nil_of_length_eq_zero hlen.symm]
      simp
  | cons x rest ih =>
      cases ys with
      | nil => cases hlen
      | cons y others =>
          rw [List.zipWith_cons_cons, List.forall_mem_cons, ih (Nat.succ.inj hlen),
            UInt8.xor_eq_zero_iff, List.cons.injEq]

/-- Looking at every byte finds out whether two texts are equal. -/
theorem secureEq_iff (a b : String) : secureEq a b = true ↔ a = b := by
  unfold secureEq
  dsimp only
  split
  · next hlen =>
      rw [beq_iff_eq, foldl_or_eq_zero, zipWith_xor_eq_zero hlen, and_iff_right rfl]
      exact ⟨utf8_inj, fun h => by rw [h]⟩
  · next hlen =>
      refine ⟨fun h => Bool.noConfusion h, fun h => absurd ?_ hlen⟩
      rw [h]

/-! ## Presenting a token -/

/-- The token is the first that the request carries. -/
def Credentials.Presents (c : Credentials) (token : String) : Prop :=
  c.bearer = some token ∨ (c.bearer = none ∧ c.query = some token)

namespace Tokens

variable {tokens : Tokens} {presented : String} {x y : Session}

/-- Whoever presents the token gets the session. -/
def Opens (tokens : Tokens) (presented : String) (x : Session) : Prop :=
  ∀ c : Credentials, c.Presents presented → tokens.authenticate c = .ok x

/-- A token opens one session. -/
theorem Opens.unique (hx : tokens.Opens presented x) (hy : tokens.Opens presented y) : x = y := by
  have hfirst := hx ⟨some presented, none⟩ (Or.inl rfl)
  have hsecond := hy ⟨some presented, none⟩ (Or.inl rfl)
  rw [hfirst] at hsecond
  exact Except.ok.inj hsecond

theorem opens_of_session? (h : tokens.session? presented = some x) : tokens.Opens presented x := by
  intro c hc
  have hclosed : (tokens.operator.isNone && tokens.users.isEmpty) = false := by
    rw [Bool.eq_false_iff, Ne, Bool.and_eq_true]
    rintro ⟨hoperator, husers⟩
    rw [session?, List.isEmpty_iff.1 husers, List.find?_nil,
      Option.isNone_iff_eq_none.1 hoperator] at h
    cases h
  have hfound : (c.bearer.toList ++ c.query.toList).findSome? tokens.session? = some x := by
    rcases hc with hbearer | ⟨hbearer, hquery⟩
    · rw [hbearer, Option.toList_some, List.singleton_append, List.findSome?_cons, h]
    · rw [hbearer, hquery, Option.toList_none, List.nil_append, Option.toList_some,
        List.findSome?_cons, h]
  rw [authenticate, hclosed, if_neg Bool.false_ne_true, hfound]

theorem session?_of_user {u : Settings.UserToken}
    (h : tokens.users.find? (fun u => secureEq presented (Text.trim u.token)) = some u) :
    tokens.session? presented = some ⟨some u.userId⟩ := by
  rw [session?, h]

theorem session?_of_operator (hoperator : tokens.operator = some presented)
    (husers : ∀ u ∈ tokens.users, Text.trim u.token ≠ presented) :
    tokens.session? presented = some .operator := by
  have hnone : tokens.users.find? (fun u => secureEq presented (Text.trim u.token)) = none := by
    refine List.find?_eq_none.2 fun u hu heq => ?_
    exact husers u hu ((secureEq_iff _ _).1 heq).symm
  rw [session?, hnone, hoperator]
  exact if_pos ((secureEq_iff _ _).2 rfl)

/-- A user's token opens the session of the first user with that token. -/
theorem opens_first (tokens : Tokens) {u : Settings.UserToken} (hu : u ∈ tokens.users) :
    ∃ v ∈ tokens.users, Text.trim v.token = Text.trim u.token ∧
      tokens.Opens (Text.trim u.token) ⟨some v.userId⟩ := by
  cases hfind : tokens.users.find? (fun v => secureEq (Text.trim u.token) (Text.trim v.token)) with
  | none => exact absurd ((secureEq_iff _ _).2 rfl) (List.find?_eq_none.1 hfind u hu)
  | some v =>
      have hmatch := List.find?_some hfind
      exact ⟨v, List.mem_of_find?_eq_some hfind, ((secureEq_iff _ _).1 hmatch).symm,
        opens_of_session? (session?_of_user hfind)⟩

end Tokens

end Access

/-! ## The settings in force -/

namespace Settings

variable {file : File} {token : Option String} {s : Settings}

theorem checkTokens_ok_iff (operator : Option String) (users : List UserToken) :
    checkTokens operator users = .ok () ↔
      ∀ u ∈ users, Text.isBlankText u.token = false ∧ operator ≠ some (Text.trim u.token) := by
  induction users with
  | nil => simp [checkTokens]
  | cons u rest ih =>
      rw [checkTokens, List.forall_mem_cons, ← ih]
      split
      · next hblank => simp [hblank]
      · next hblank =>
          split
          · next hshared => simp [hshared]
          · next hshared => simp [hblank, hshared]

theorem check_tokens (h : s.check = .ok ()) :
    checkTokens s.operatorToken? s.gateway.userTokens = .ok () := by
  unfold check at h
  split at h
  · cases h
  · split at h
    · cases h
    · split at h
      · cases h
      · exact h

/-- What is in force was checked before the environment had its say. -/
theorem inForce_checked (h : inForce file token = .ok s) :
    ∃ loaded : Settings, s = loaded.withEnvironment token ∧
      checkTokens loaded.operatorToken? loaded.gateway.userTokens = .ok () := by
  cases file with
  | absent => exact ⟨standard, (Except.ok.inj h).symm, rfl⟩
  | directory => cases h
  | text content =>
      simp only [inForce, load] at h
      cases hread : read content with
      | error e =>
          simp only [hread] at h
          cases h
      | ok loaded =>
          cases hcheck : loaded.check with
          | error e =>
              simp only [hread, hcheck] at h
              cases h
          | ok u =>
              simp only [hread, hcheck] at h
              exact ⟨loaded, (Except.ok.inj h).symm, check_tokens hcheck⟩

@[simp] theorem withEnvironment_userTokens (s : Settings) (token : Option String) :
    (s.withEnvironment token).gateway.userTokens = s.gateway.userTokens := by
  unfold withEnvironment
  split
  · split <;> rfl
  · rfl

/-- The operator's token comes from the environment, unless nothing is said there. -/
theorem withEnvironment_operatorToken? (s : Settings) (token : Option String) :
    (s.withEnvironment token).operatorToken? =
      match token.bind Text.nonBlank? with
      | some t => some t
      | none => s.operatorToken? := by
  cases token with
  | none => rfl
  | some t =>
      rw [Option.bind_some, Text.nonBlank?_eq, withEnvironment]
      by_cases hblank : Text.isBlankText t = true
      · simp only [if_pos hblank]
      · simp only [if_neg hblank, operatorToken?, Option.bind_some, Text.nonBlank?_eq]

theorem ofGateway_eq (h : ∀ u ∈ s.gateway.userTokens, Text.isBlankText u.token = false) :
    Access.Tokens.ofGateway s = ⟨s.operatorToken?, s.gateway.userTokens⟩ := by
  have hoperator : (s.operatorToken?.filter fun t => !Text.isBlankText t) = s.operatorToken? := by
    cases htoken : s.operatorToken? with
    | none => rfl
    | some t =>
        obtain ⟨raw, -, hraw⟩ := Option.bind_eq_some_iff.1 htoken
        simp [Text.not_isBlankText_of_nonBlank? hraw]
  have husers : (s.gateway.userTokens.filter fun u => !Text.isBlankText u.token) =
      s.gateway.userTokens := by
    refine List.filter_eq_self.2 fun u hu => ?_
    rw [h u hu, Bool.not_false]
  rw [Access.Tokens.ofGateway, Access.Tokens.ofSettings, hoperator, husers]

/-- What is in force has the token of the environment, if there is one, and else one that was
compared with the users'; theirs are not blank. -/
theorem inForce_tokens (h : inForce file token = .ok s) :
    ∃ own : Option String,
      (s.operatorToken? = match token.bind Text.nonBlank? with
        | some t => some t
        | none => own) ∧
      ∀ u ∈ s.gateway.userTokens,
        Text.isBlankText u.token = false ∧ own ≠ some (Text.trim u.token) := by
  obtain ⟨loaded, rfl, hcheck⟩ := inForce_checked h
  rw [checkTokens_ok_iff] at hcheck
  refine ⟨loaded.operatorToken?, withEnvironment_operatorToken? loaded token, ?_⟩
  rw [withEnvironment_userTokens]
  exact hcheck

theorem inForce_ofGateway (h : inForce file token = .ok s) :
    Access.Tokens.ofGateway s = ⟨s.operatorToken?, s.gateway.userTokens⟩ := by
  obtain ⟨own, -, husers⟩ := inForce_tokens h
  exact ofGateway_eq fun u hu => (husers u hu).1

/-- A user's token opens the session of a user who has it. -/
theorem opens_user (h : inForce file token = .ok s) {u : UserToken}
    (hu : u ∈ s.gateway.userTokens) :
    ∃ v ∈ s.gateway.userTokens, Text.trim v.token = Text.trim u.token ∧
      (Access.Tokens.ofGateway s).Opens (Text.trim u.token) ⟨some v.userId⟩ := by
  rw [inForce_ofGateway h]
  exact Access.Tokens.opens_first ⟨s.operatorToken?, s.gateway.userTokens⟩ hu

/-- Every token in force opens the session it is meant for. -/
def OpensOwn (s : Settings) : Prop :=
  (∀ u ∈ s.gateway.userTokens,
      (Access.Tokens.ofGateway s).Opens (Text.trim u.token) ⟨some u.userId⟩) ∧
    ∀ t, s.operatorToken? = some t → (Access.Tokens.ofGateway s).Opens t .operator

/-- Users who share a token are one user, and the token of the environment is no user's. -/
def TokensApart (s : Settings) (token : Option String) : Prop :=
  (∀ u ∈ s.gateway.userTokens, ∀ v ∈ s.gateway.userTokens,
      Text.trim u.token = Text.trim v.token → u.userId = v.userId) ∧
    ∀ t, token = some t → ∀ u ∈ s.gateway.userTokens, Text.trim u.token ≠ Text.trim t

theorem OpensOwn.apart (h : inForce file token = .ok s) (hown : s.OpensOwn) :
    s.TokensApart token := by
  obtain ⟨husers, hoperator⟩ := hown
  constructor
  · intro u hu v hv hsame
    have hv' := husers v hv
    rw [← hsame] at hv'
    have hsession := (husers u hu).unique hv'
    exact Option.some.inj (Access.Session.mk.inj hsession)
  · -- a user's token in the environment would have to open two sessions
    intro t ht u hu hsame
    obtain ⟨own, hforce, hcheck⟩ := inForce_tokens h
    have hblank : Text.isBlankText t = false := by
      rw [← Text.isBlankText_trim, ← hsame, Text.isBlankText_trim]
      exact (hcheck u hu).1
    have hoperative : s.operatorToken? = some (Text.trim t) := by
      rw [hforce, ht, Option.bind_some, Text.nonBlank?_eq, hblank, if_neg Bool.false_ne_true]
    have hsession := (hoperator _ hoperative).unique (hsame ▸ husers u hu)
    cases hsession

/-- The operator's token is no user's. -/
theorem TokensApart.operator (h : inForce file token = .ok s) (hapart : s.TokensApart token)
    {t : String} (ht : s.operatorToken? = some t) {u : UserToken}
    (hu : u ∈ s.gateway.userTokens) : Text.trim u.token ≠ t := by
  intro hsame
  obtain ⟨own, hforce, hcheck⟩ := inForce_tokens h
  rw [hforce] at ht
  cases hsaid : token.bind Text.nonBlank? with
  | none =>
      -- then it is the file's, which was compared with the users'
      rw [hsaid] at ht
      exact (hcheck u hu).2 (ht.trans (by rw [hsame]))
  | some said =>
      obtain ⟨raw, hraw, htrim⟩ := Option.bind_eq_some_iff.1 hsaid
      rw [hsaid] at ht
      rw [Text.nonBlank?_eq] at htrim
      split at htrim
      · cases htrim
      · refine hapart.2 raw hraw u hu ?_
        rw [hsame, ← Option.some.inj ht, ← Option.some.inj htrim]

theorem TokensApart.opensOwn (h : inForce file token = .ok s) (hapart : s.TokensApart token) :
    s.OpensOwn := by
  constructor
  · intro u hu
    obtain ⟨v, hv, hsame, hopens⟩ := opens_user h hu
    rwa [hapart.1 v hv u hu hsame] at hopens
  · intro t ht
    rw [inForce_ofGateway h]
    exact Access.Tokens.opens_of_session?
      (Access.Tokens.session?_of_operator ht fun u hu => hapart.operator h ht hu)

/-- **When tokens open their own sessions.** Take any settings in force, from whatever file and
with whatever token of the environment. The token of every user among them opens the session of a
user who has that token, to whoever presents it. It is the user's own session for every one of
them, and the operator's token opens the operator's session, in exactly one case: users who share a
token are one user, and the token of the environment is no user's. -/
theorem opensOwn_iff (h : inForce file token = .ok s) :
    (∀ u ∈ s.gateway.userTokens, ∃ v ∈ s.gateway.userTokens,
      Text.trim v.token = Text.trim u.token ∧
        (Access.Tokens.ofGateway s).Opens (Text.trim u.token) ⟨some v.userId⟩) ∧
      (s.OpensOwn ↔ s.TokensApart token) :=
  ⟨fun _ hu => opens_user h hu, OpensOwn.apart h, TokensApart.opensOwn h⟩

end Settings

namespace Sample

/-- A settings file with the tokens of two users; one of them has two. -/
def twoUsers : Settings.File :=
  .text ("\x7b\"gateway\":\x7b\"userTokens\":[\x7b\"token\":\" seven \",\"userId\":7\x7d," ++
    "\x7b\"token\":\"eight\",\"userId\":8\x7d,\x7b\"token\":\"sept\",\"userId\":7\x7d]\x7d\x7d")

/-- What is in force with that file, and a token in the environment. -/
def guarded : Settings :=
  { Settings.standard with
    gateway := { Settings.Gateway.standard with
      apiToken := some "tower "
      userTokens := [⟨" seven ", 7⟩, ⟨"eight", 8⟩, ⟨"sept", 7⟩] } }

/-- A settings file in which two users have one token. -/
def oneToken : Settings.File :=
  .text ("\x7b\"gateway\":\x7b\"userTokens\":[\x7b\"token\":\"shared\",\"userId\":7\x7d," ++
    "\x7b\"token\":\"shared\",\"userId\":8\x7d]\x7d\x7d")

/-- A settings file in which the operator's token is not a user's. -/
def ownToken : Settings.File :=
  .text ("\x7b\"gateway\":\x7b\"apiToken\":\"tower\"," ++
    "\"userTokens\":[\x7b\"token\":\"shared\",\"userId\":7\x7d]\x7d\x7d")

end Sample

namespace Settings

theorem opensOwn_guarded :
    inForce Sample.twoUsers (some "tower ") = .ok Sample.guarded ∧
      Sample.guarded.TokensApart (some "tower ") ∧ Sample.guarded.OpensOwn ∧
      (Access.Tokens.ofGateway Sample.guarded).Opens "seven" ⟨some 7⟩ ∧
      (Access.Tokens.ofGateway Sample.guarded).Opens "tower" .operator := by
  have hforce : inForce Sample.twoUsers (some "tower ") = .ok Sample.guarded := by
    decide +kernel
  have hapart : Sample.guarded.TokensApart (some "tower ") := by
    constructor
    · decide +kernel
    · intro t ht
      rw [← Option.some.inj ht]
      decide +kernel
  have hown := (opensOwn_iff hforce).2.2 hapart
  have htrim : Text.trim " seven " = "seven" := by decide +kernel
  have hseven := hown.1 ⟨" seven ", 7⟩ List.mem_cons_self
  rw [htrim] at hseven
  exact ⟨hforce, hapart, hown, hseven, hown.2 "tower" (by decide +kernel)⟩

/-- Two users may have one token in a file that is let through; it opens the session of the first
of them only. And a token of the environment may be a user's: the check would refuse the settings
that are then in force, but is not asked; whoever presents that token is the user. -/
theorem opens_other :
    (∃ s, inForce Sample.oneToken none = .ok s ∧ ⟨"shared", 8⟩ ∈ s.gateway.userTokens ∧
        ¬ (Access.Tokens.ofGateway s).Opens "shared" ⟨some 8⟩) ∧
      ∃ s, inForce Sample.ownToken (some "shared") = .ok s ∧
        s.operatorToken? = some "shared" ∧
        ¬ (Access.Tokens.ofGateway s).Opens "shared" .operator ∧
        s.check = .error (.sharedUserToken 7) := by
  have hfirst : ∀ x, x ≠ ⟨some 7⟩ → ∀ tokens : Access.Tokens,
      tokens.authenticate ⟨some "shared", none⟩ = .ok ⟨some 7⟩ → ¬ tokens.Opens "shared" x := by
    intro x hx tokens hseven hopens
    rw [hopens ⟨some "shared", none⟩ (Or.inl rfl)] at hseven
    exact hx (Except.ok.inj hseven)
  refine ⟨⟨{ standard with gateway := { Gateway.standard with
      userTokens := [⟨"shared", 7⟩, ⟨"shared", 8⟩] } }, by decide +kernel, by decide +kernel, ?_⟩,
    ⟨{ standard with gateway := { Gateway.standard with
      apiToken := some "shared", userTokens := [⟨"shared", 7⟩] } }, by decide +kernel,
      by decide +kernel, ?_, by decide +kernel⟩⟩
  · exact hfirst _ (by decide) _ (by decide +kernel)
  · exact hfirst _ (by decide) _ (by decide +kernel)

end Settings

end ControlPlane
