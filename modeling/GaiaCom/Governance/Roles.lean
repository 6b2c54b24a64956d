/-
Roles of a node: `HasRole` of governance/service.go gives a role to whoever has a valid credential,
and to the identities of the bootstrap configuration. The comparison with a configured id falls
back to the local part alone, and `CreateIdentity` lets anyone register that local part under any
domain; so who holds a bootstrap role is decided by `normalizeAndStripDomain`. A registered
identity holds roles only by its own right exactly if no configured id shares its local part, or
one of them denotes the identity itself (`bootstrap_privilege_iff`).
-/
import GaiaCom.Core.Validate
import GaiaCom.Lib.Run

namespace GaiaCom.Governance

open Lib Core

/-! ## Registering -/

structure CreateIdentityInput where
  gaiaID : String
  /-- The public record is not empty, and `validateSovereignKeyset` accepts it. -/
  publicRecord : Bool
  keyset : Bool

structure Identity where
  userID : Nat
  gaiaID : String
  deriving DecidableEq

/-- One call; `stored` is false if the INSERT fails. User 0 is `uuid.Nil`. -/
structure Registration where
  userID : Nat
  input : CreateIdentityInput
  stored : Bool

variable (cm : CaseMap)

/-- `strings.ToLower(strings.TrimSpace(id))`. -/
def lowered (id : List Char) : List Char := (trim id).map cm.lower

def createIdentity (userID : Nat) (input : CreateIdentityInput) (stored : Bool) (identities : List Identity) :
    Except String Identity :=
  if userID = 0 then .error "invalid user"
  else if (Core.gaiaID input.gaiaID).toOption = none then .error "invalid gaiaId"
  else if input.publicRecord = false then .error "publicRecord is required"
  else if input.keyset = false then .error "sovereign keyset rejected"
  else if 2 ≤ identities.countP (fun i => i.userID = userID) then .error "maximum identity limit reached (2)"
  else if 0 < identities.countP (fun i => toLower i.gaiaID = toLower input.gaiaID) then .error "gaiaId already taken"
  else if stored = false then .error "insert failed"
  else .ok ⟨userID, String.ofList (lowered cm input.gaiaID.toList)⟩

def register (identities : List Identity) (r : Registration) : List Identity :=
  match createIdentity cm r.userID r.input r.stored identities with
  | .ok identity => identities ++ [identity]
  | .error _ => identities

/-! ## Roles -/

/-- The configured ids of bootstrap.go. -/
structure Bootstrap where
  bootstrapGaiaID : String
  bootstrapGaiaIDs : List String

def Bootstrap.ids (config : Bootstrap) : List String := config.bootstrapGaiaID :: config.bootstrapGaiaIDs

/-- What of models.RoleCredential is looked at. -/
structure RoleCredential where
  id : String
  role : String
  subjectIdentity : String
  validFrom : Nat
  validUntil : Nat

/-- The answer of `GetCredentialRevocation`. -/
inductive Revocation where
  | error
  | none
  | revoked
  deriving DecidableEq

/-- role_credentials and role_credential_revocations; `credentials` is `none` if the query fails. -/
structure Credentials where
  credentials : Option (List RoleCredential)
  revocation : String → Revocation

def bootstrapRoles : List String := ["node_operator", "senior_reviewer", "trusted_reviewer"]

/-- `strings.TrimPrefix(id, "@")` -/
def trimAt : List Char → List Char
  | '@' :: rest => rest
  | id => id

def normalizeAndStripDomain (id : List Char) : List Char :=
  ((trimAt (lowered cm id)).takeWhile (· ≠ ':')).takeWhile (· ≠ '@')

def bootstrapIdentityMatches (identityGaiaID bootstrapGaiaID : String) : Bool :=
  let identity := lowered cm identityGaiaID.toList
  let bootstrap := lowered cm bootstrapGaiaID.toList
  identity = bootstrap || normalizeAndStripDomain cm identity = normalizeAndStripDomain cm bootstrap

def getCredentialsBySubject (store : Credentials) (subject : String) : Option (List RoleCredential) :=
  store.credentials.map fun creds => creds.filter fun c => toLower c.subjectIdentity = toLower subject

def RoleCredential.counts (cred : RoleCredential) (role : String) : Bool :=
  cred.role = role || (role = "trusted_reviewer" && cred.role = "senior_reviewer")

/-- `none` is the error of the credential query. -/
def hasRole (config : Bootstrap) (store : Credentials) (now : Nat) (gaiaID role : String) : Option Bool :=
  if config.ids.any fun b => b ≠ "" && (bootstrapIdentityMatches cm gaiaID b && bootstrapRoles.contains role) then some true
  else
    (getCredentialsBySubject store gaiaID).map fun creds => creds.any fun cred =>
      cred.counts role && (!(cred.validUntil < now || now < cred.validFrom) && store.revocation cred.id = .none)

/-! ## Whom an id denotes -/

/-- A local part at a domain. -/
structure Name where
  localPart : List Char
  domain : List Char
  deriving DecidableEq

/-- The name an id spells as `@local:domain` or `local@domain`, whatever the case. -/
def denotes (id : String) : Option Name :=
  match lowered cm id.toList with
  | '@' :: rest => if ':' ∈ rest then some ⟨rest.takeWhile (· ≠ ':'), (rest.dropWhile (· ≠ ':')).drop 1⟩ else none
  | cs => if '@' ∈ cs then some ⟨cs.takeWhile (· ≠ '@'), (cs.dropWhile (· ≠ '@')).drop 1⟩ else none

/-- Both ids spell the same name. -/
def SameIdentity (g b : String) : Prop := ∃ n, denotes cm g = some n ∧ denotes cm b = some n

/-- The identity has a credential for the role that is in its term and not revoked. -/
def Credentialed (store : Credentials) (now : Nat) (gaiaID role : String) : Prop :=
  ∃ creds, store.credentials = some creds ∧ ∃ cred ∈ creds, toLower cred.subjectIdentity = toLower gaiaID ∧
    cred.counts role = true ∧ cred.validFrom ≤ now ∧ now ≤ cred.validUntil ∧ store.revocation cred.id = .none

/-! ## Registered ids -/

/-- The characters of an accepted GaiaID. -/
structure Spelled (id : List Char) (n : Name) : Prop where
  eq : id = '@' :: n.localPart ++ ':' :: n.domain
  localPart : ∀ c ∈ n.localPart, isLocalByte c = true
  domain : ∀ c ∈ n.domain, isDomainByte c = true
  domain_ne : n.domain ≠ []

theorem spelled_of_gaiaID {value : String} (h : Core.gaiaID value = .ok ()) : ∃ n, Spelled value.toList n := by
  obtain ⟨heq, hlocal, hdomain⟩ := gaiaID_ok h
  obtain ⟨hlen, hbytes⟩ := domain_bytes hdomain
  have hne : (afterColon value).toList ≠ [] := by
    grind [len]
  generalize (beforeColon value).toList = localPart at heq hlocal
  generalize (afterColon value).toList = domain at heq hbytes hne
  exact ⟨⟨localPart, domain⟩, heq, hlocal, hbytes, hne⟩

namespace Spelled

variable {id : List Char} {n : Name}

theorem ascii (h : Spelled id n) : ∀ c ∈ id, c.toNat < 128 := by
  intro c hc
  rw [h.eq] at hc
  simp only [List.cons_append, List.mem_cons, List.mem_append] at hc
  rcases hc with rfl | hc | rfl | hc
  · decide
  · exact (isLocalByte_range (h.localPart c hc)).1
  · decide
  · have := (isDomainByte_range (h.domain c hc)).2.1; omega

theorem trim_eq (h : Spelled id n) : trim id = id := by
  refine trim_eq_self ?_ ?_
  · intro c hc
    rw [h.eq] at hc
    simp only [List.cons_append, List.head?_cons, Option.some.injEq] at hc
    subst hc
    decide
  · intro c hc
    have hmem : c ∈ n.domain := by
      rw [h.eq, List.getLast?_append_of_ne_nil _ (List.cons_ne_nil _ _), List.getLast?_cons] at hc
      grind [List.getLast?_isSome, h.domain_ne]
    exact isDomainByte_not_space (h.domain c hmem)

theorem map_lower (h : Spelled id n) :
    lowered cm id = id.map lowerChar ∧ Spelled (id.map lowerChar) ⟨n.localPart.map lowerChar, n.domain.map lowerChar⟩ := by
  constructor
  · grind [lowered, h.trim_eq, List.map_congr_left, cm.ascii, h.ascii]
  · refine ⟨?_, ?_, ?_, ?_⟩
    · grind [h.eq, lowerChar]
    · grind [isLocalByte_lowerChar, h.localPart]
    · grind [isDomainByte_lowerChar, h.domain]
    · simpa using h.domain_ne

end Spelled

/-- A registered id, as `CreateIdentity` stored it: `@local:domain` in lower case. -/
structure Registered (g : String) (n : Name) : Prop where
  spelled : Spelled g.toList n
  lower : lowered cm g.toList = g.toList

theorem registered_lowered {value : String} (h : Core.gaiaID value = .ok ()) :
    ∃ n, Registered cm (String.ofList (lowered cm value.toList)) n := by
  obtain ⟨n, hn⟩ := spelled_of_gaiaID h
  obtain ⟨heq, hspelled⟩ := hn.map_lower cm
  obtain ⟨heq', -⟩ := hspelled.map_lower cm
  refine ⟨⟨n.localPart.map lowerChar, n.domain.map lowerChar⟩, ?_, ?_⟩
  · rw [String.toList_ofList, heq]
    exact hspelled
  · rw [String.toList_ofList, heq, heq']
    simp [Function.comp_def]

theorem registered_of_run (calls : List Registration) :
    ∀ i ∈ exec (register cm) [] calls, ∃ n, Registered cm i.gaiaID n := by
  refine exec_invariant (P := fun s : List Identity => ∀ i ∈ s, ∃ n, Registered cm i.gaiaID n) ?_ calls (by simp)
  intro s r hs
  unfold register
  split
  · rename_i identity hok
    intro i hi
    rcases List.mem_append.1 hi with hi | hi
    · exact hs i hi
    · rw [List.mem_singleton] at hi
      subst hi
      simp only [createIdentity, ite_error_eq_ok] at hok
      obtain ⟨-, hvalid, -, -, -, -, -, hid⟩ := hok
      cases hid
      refine registered_lowered cm ?_
      cases hg : Core.gaiaID r.input.gaiaID with
      | ok u => rfl
      | error e => rw [hg] at hvalid; exact absurd rfl hvalid
  · exact hs

namespace Registered

variable {cm} {g : String} {n : Name}

theorem takeWhile_localPart (h : Registered cm g n) (x : Char) (hx : isLocalByte x = false) (rest : List Char) :
    (n.localPart ++ x :: rest).takeWhile (· ≠ x) = n.localPart := by
  rw [List.takeWhile_append_of_pos]
  · simp
  grind [h.spelled.localPart]

theorem denotes_eq (h : Registered cm g n) : denotes cm g = some n := by
  unfold denotes
  rw [h.lower, h.spelled.eq]
  have hdrop : (n.localPart ++ ':' :: n.domain).dropWhile (· ≠ ':') = ':' :: n.domain := by
    have htake := h.takeWhile_localPart ':' (by decide) n.domain
    have happ := List.takeWhile_append_dropWhile (p := (· ≠ ':')) (l := n.localPart ++ ':' :: n.domain)
    rw [htake] at happ
    exact List.append_cancel_left happ
  simp only [List.cons_append, h.takeWhile_localPart ':' (by decide), hdrop]
  simp

theorem normalizeAndStripDomain_eq (h : Registered cm g n) : normalizeAndStripDomain cm g.toList = n.localPart := by
  unfold normalizeAndStripDomain
  rw [h.lower, h.spelled.eq]
  simp only [trimAt, List.cons_append, h.takeWhile_localPart ':' (by decide)]
  rw [List.takeWhile_eq_self_iff]
  intro c hc
  simpa using (isLocalByte_range (h.spelled.localPart c hc)).2.2

end Registered

/-! ## Who holds a role -/

theorem sameIdentity_of_eq {g b : String} {n : Name} (hg : denotes cm g = some n)
    (h : lowered cm g.toList = lowered cm b.toList) : SameIdentity cm g b := by
  grind [denotes, SameIdentity]

theorem credentialed_iff {store : Credentials} {now : Nat} {g role : String} :
    ((getCredentialsBySubject store g).map fun creds => creds.any fun cred =>
      cred.counts role && (!(cred.validUntil < now || now < cred.validFrom) && store.revocation cred.id = .none)) =
        some true ↔ Credentialed store now g role := by
  unfold getCredentialsBySubject Credentialed
  simp only [Option.map_map, Option.map_eq_some_iff, Function.comp_apply, List.any_eq_true, List.mem_filter,
    Bool.and_eq_true, decide_eq_true_eq, Bool.not_eq_true', Bool.or_eq_false_iff, decide_eq_false_iff_not, not_lt]
  grind

theorem hasRole_iff {config : Bootstrap} {store : Credentials} {now : Nat} {g role : String} :
    hasRole cm config store now g role = some true ↔
      (role ∈ bootstrapRoles ∧ ∃ b ∈ config.ids, b ≠ "" ∧ bootstrapIdentityMatches cm g b = true) ∨
        Credentialed store now g role := by
  unfold hasRole
  split
  · rename_i hany
    simp only [List.any_eq_true, Bool.and_eq_true, decide_eq_true_eq, List.contains_iff_mem] at hany
    obtain ⟨b, hb, hne, hmatch, hrole⟩ := hany
    exact iff_of_true rfl (.inl ⟨hrole, b, hb, hne, hmatch⟩)
  · rename_i hany
    simp only [List.any_eq_true, Bool.and_eq_true, decide_eq_true_eq, List.contains_iff_mem] at hany
    rw [credentialed_iff, or_iff_right]
    grind

/-- Privilege by configuration: for every configuration, every credential store, every run of
`CreateIdentity` calls and every identity it registered, the identity holds roles only by a
credential of its own or because a configured id denotes it, if and only if for every bootstrap
role it has no credential for, a configured id whose stripped form is the identity's local part
exists only if a configured id denotes the identity. -/
theorem bootstrap_privilege_iff (config : Bootstrap) (store : Credentials) (now : Nat) (calls : List Registration)
    (i : Identity) (hi : i ∈ exec (register cm) [] calls) :
    (∀ role, hasRole cm config store now i.gaiaID role = some true →
      Credentialed store now i.gaiaID role ∨ ∃ b ∈ config.ids, SameIdentity cm i.gaiaID b) ↔
    ∀ role ∈ bootstrapRoles, ¬ Credentialed store now i.gaiaID role → ∀ n, denotes cm i.gaiaID = some n →
      (∃ b ∈ config.ids, b ≠ "" ∧ normalizeAndStripDomain cm (lowered cm b.toList) = n.localPart) →
        ∃ b ∈ config.ids, SameIdentity cm i.gaiaID b := by
  obtain ⟨n, hreg⟩ := registered_of_run cm calls i hi
  have hstrip : normalizeAndStripDomain cm (lowered cm i.gaiaID.toList) = n.localPart := by
    rw [hreg.lower, hreg.normalizeAndStripDomain_eq]
  constructor
  · intro h role hrole hcred n' hn' hshare
    rw [hreg.denotes_eq] at hn'
    cases hn'
    obtain ⟨b, hb, hne, heq⟩ := hshare
    have hmatch : bootstrapIdentityMatches cm i.gaiaID b = true := by
      simp [bootstrapIdentityMatches, hstrip, heq]
    grind [hasRole_iff]
  · intro h role htrue
    rcases (hasRole_iff cm).1 htrue with ⟨hrole, b, hb, hne, hmatch⟩ | hcred
    · by_cases hcred : Credentialed store now i.gaiaID role
      · exact .inl hcred
      right
      simp only [bootstrapIdentityMatches, Bool.or_eq_true, decide_eq_true_eq] at hmatch
      rcases hmatch with heq | heq
      · exact ⟨b, hb, sameIdentity_of_eq cm hreg.denotes_eq heq⟩
      · exact h role hrole hcred n hreg.denotes_eq ⟨b, hb, hne, by rw [← heq, hstrip]⟩
    · exact .inl hcred

def sampleConfig : Bootstrap := ⟨"@operator:node.example.org", []⟩

def sampleRegistration (gaiaID : String) : Registration := ⟨1, ⟨gaiaID, true, true⟩, true⟩

/-- The operator registers the configured id, in any case: the role is theirs by right. -/
theorem operator_by_right :
    hasRole .plain sampleConfig ⟨some [], fun _ => .none⟩ 0 "@operator:node.example.org" "node_operator" = some true ∧
      (Credentialed ⟨some [], fun _ => .none⟩ 0 "@operator:node.example.org" "node_operator" ∨
        ∃ b ∈ sampleConfig.ids, SameIdentity .plain "@operator:node.example.org" b) := by
  have hrole : hasRole .plain sampleConfig ⟨some [], fun _ => .none⟩ 0 "@operator:node.example.org" "node_operator" =
      some true := by decide +kernel
  have hright := (bootstrap_privilege_iff .plain sampleConfig ⟨some [], fun _ => .none⟩ 0
    [sampleRegistration "@Operator:Node.Example.Org"] ⟨1, "@operator:node.example.org"⟩ (by decide +kernel)).2
    fun _ _ _ _ _ _ => ⟨"@operator:node.example.org", by decide, _, rfl, rfl⟩
  exact ⟨hrole, hright "node_operator" hrole⟩

/-- Anyone who registers the operator's local part under another domain is node operator. -/
theorem operator_by_local_part :
    exec (register .plain) [] [sampleRegistration "@operator:evil.example"] = [⟨1, "@operator:evil.example"⟩] ∧
      hasRole .plain sampleConfig ⟨some [], fun _ => .none⟩ 0 "@operator:evil.example" "node_operator" = some true ∧
      ¬ Credentialed ⟨some [], fun _ => .none⟩ 0 "@operator:evil.example" "node_operator" ∧
      ¬ ∃ b ∈ sampleConfig.ids, SameIdentity .plain "@operator:evil.example" b := by
  have hdiffer : denotes .plain "@operator:evil.example" ≠ denotes .plain "@operator:node.example.org" := by
    decide +kernel
  refine ⟨by decide +kernel, by decide +kernel, ?_, ?_⟩
  · grind [Credentialed]
  · grind [Bootstrap.ids, sampleConfig, SameIdentity]

end GaiaCom.Governance
