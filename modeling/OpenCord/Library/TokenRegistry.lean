import Mathlib.Data.List.Nodup

/-! What rotating secrets is for: of the secrets issued to a holder only the last one counts,
and none of a disabled holder. A store keeps digests, and is right when it accepts exactly
the digests of the secrets that count.
-/

namespace OpenCord.Library

/-- The secrets issued so far, the last one first, and the holders disabled so far. -/
structure TokenRegistry (ω σ : Type) where
  issued : List (ω × σ)
  disabled : List ω

namespace TokenRegistry

variable {ω σ δ : Type}

def empty : TokenRegistry ω σ := ⟨[], []⟩

/-- The registry after a holder gets a secret. -/
def issue (registry : TokenRegistry ω σ) (holder : ω) (secret : σ) : TokenRegistry ω σ :=
  { registry with issued := (holder, secret) :: registry.issued }

def disable (registry : TokenRegistry ω σ) (holder : ω) : TokenRegistry ω σ :=
  { registry with disabled := holder :: registry.disabled }

/-- No two issues have the same digest. -/
def Distinct (digest : σ → δ) (registry : TokenRegistry ω σ) : Prop :=
  (registry.issued.map fun issue => digest issue.2).Nodup

/-- A secret is fresh when no secret with its digest was issued. -/
def Fresh (digest : σ → δ) (registry : TokenRegistry ω σ) (secret : σ) : Prop :=
  ∀ issue ∈ registry.issued, digest issue.2 ≠ digest secret

instance [DecidableEq δ] (digest : σ → δ) (registry : TokenRegistry ω σ) (secret : σ)
    : Decidable (registry.Fresh digest secret) :=
  inferInstanceAs (Decidable (∀ issue ∈ registry.issued, _))

variable {registry : TokenRegistry ω σ} {digest : σ → δ}

theorem Distinct.empty (digest : σ → δ) : Distinct digest (empty : TokenRegistry ω σ) :=
  List.nodup_nil

theorem Distinct.issue (distinct : registry.Distinct digest) {secret : σ}
    (fresh : registry.Fresh digest secret) (holder : ω)
    : (registry.issue holder secret).Distinct digest := by
  refine List.nodup_cons.mpr ⟨fun taken => ?_, distinct⟩
  obtain ⟨issue, mem, same⟩ := List.mem_map.mp taken
  exact fresh issue mem same

theorem Distinct.eq (distinct : registry.Distinct digest) {first second : ω × σ}
    (mem : first ∈ registry.issued) (other : second ∈ registry.issued)
    (same : digest first.2 = digest second.2)
    : first = second :=
  List.inj_on_of_nodup_map distinct mem other same

-----------------------------------------------------------------------------------------
-- The latest secret
-----------------------------------------------------------------------------------------

variable [DecidableEq ω]

/-- The secret issued last to a holder. -/
def latest (registry : TokenRegistry ω σ) (holder : ω) : Option σ :=
  (registry.issued.find? fun issue => issue.1 = holder).map Prod.snd

/-- A secret counts when it was the last one for a holder that was not disabled. -/
def Authorizes (registry : TokenRegistry ω σ) (holder : ω) (secret : σ) : Prop :=
  registry.latest holder = some secret ∧ holder ∉ registry.disabled

/-- An issued secret that does not count any more. -/
def Retired (registry : TokenRegistry ω σ) (holder : ω) (secret : σ) : Prop :=
  (holder, secret) ∈ registry.issued ∧ ¬ registry.Authorizes holder secret

/-- Exactly the digests of the secrets that count are accepted. -/
def Matches (digest : σ → δ) (registry : TokenRegistry ω σ) (accepts : ω → δ → Prop) : Prop :=
  ∀ holder value, accepts holder value
    ↔ ∃ secret, registry.Authorizes holder secret ∧ digest secret = value

theorem latest_issue (registry : TokenRegistry ω σ) (holder other : ω) (secret : σ)
    : (registry.issue holder secret).latest other
        = if holder = other then some secret else registry.latest other := by
  rw [latest, issue, List.find?_cons]
  by_cases same : holder = other <;> simp [same, latest]

theorem mem_issued_of_latest {holder : ω} {secret : σ}
    (found : registry.latest holder = some secret)
    : (holder, secret) ∈ registry.issued := by
  obtain ⟨⟨other, stored⟩, first, rfl⟩ := Option.map_eq_some_iff.mp found
  have own : other = holder := by simpa using List.find?_some first
  exact own ▸ List.mem_of_find?_eq_some first

/-- A new secret for a holder takes the place of the old one. -/
theorem authorizes_issue {holder other : ω} {secret value : σ}
    (enabled : holder ∉ registry.disabled)
    : (registry.issue holder secret).Authorizes other value
      ↔ (other = holder ∧ value = secret)
        ∨ (other ≠ holder ∧ registry.Authorizes other value) := by
  rw [Authorizes, latest_issue]
  by_cases same : holder = other
  · subst same
    simp [issue, enabled, eq_comm]
  · simp [issue, same, Ne.symm same, Authorizes]

theorem authorizes_disable {holder other : ω} {value : σ}
    : (registry.disable holder).Authorizes other value
      ↔ other ≠ holder ∧ registry.Authorizes other value := by
  simp only [Authorizes, disable, List.mem_cons, not_or, latest]
  tauto

-----------------------------------------------------------------------------------------
-- Retired secrets
-----------------------------------------------------------------------------------------

/-- What is retired stays retired when another secret is issued. -/
theorem Retired.issue {holder other : ω} {secret value : σ}
    (retired : registry.Retired holder secret) (fresh : registry.Fresh digest value)
    : (registry.issue other value).Retired holder secret := by
  refine ⟨List.mem_cons_of_mem _ retired.1, fun authorized => ?_⟩
  obtain ⟨last, enabled⟩ := authorized
  rw [latest_issue] at last
  split at last
  · exact fresh _ retired.1 (congrArg digest (Option.some.inj last).symm)
  · exact retired.2 ⟨last, enabled⟩

/-- What is retired stays retired when a holder is disabled. -/
theorem Retired.disable {holder : ω} {secret : σ} (retired : registry.Retired holder secret)
    (other : ω)
    : (registry.disable other).Retired holder secret :=
  ⟨retired.1, fun authorized => retired.2 (authorizes_disable.mp authorized).2⟩

-----------------------------------------------------------------------------------------
-- Stores
-----------------------------------------------------------------------------------------

variable {accepts later : ω → δ → Prop}

theorem Matches.empty (nothing : ∀ holder value, ¬ accepts holder value)
    : Matches digest (empty : TokenRegistry ω σ) accepts := by
  intro holder value
  refine iff_of_false (nothing holder value) ?_
  rintro ⟨secret, ⟨last, _⟩, _⟩
  cases last

/-- A store matches on when it accepts the new secret in place of the holder's others. -/
theorem Matches.issue (right : registry.Matches digest accepts) {holder : ω} {secret : σ}
    (enabled : holder ∉ registry.disabled)
    (replaced : ∀ other value, later other value
      ↔ (other = holder ∧ value = digest secret) ∨ (other ≠ holder ∧ accepts other value))
    : (registry.issue holder secret).Matches digest later := by
  intro other value
  rw [replaced, right other value]
  simp only [authorizes_issue enabled]
  constructor
  · rintro (⟨own, same⟩ | ⟨differs, counted, authorized, same⟩)
    · exact ⟨secret, .inl ⟨own, rfl⟩, same.symm⟩
    · exact ⟨counted, .inr ⟨differs, authorized⟩, same⟩
  · rintro ⟨counted, ⟨own, rfl⟩ | ⟨differs, authorized⟩, same⟩
    · exact .inl ⟨own, same.symm⟩
    · exact .inr ⟨differs, counted, authorized, same⟩

/-- A store matches on when it accepts nothing of the disabled holder any more. -/
theorem Matches.disable (right : registry.Matches digest accepts) {holder : ω}
    (removed : ∀ other value, later other value ↔ other ≠ holder ∧ accepts other value)
    : (registry.disable holder).Matches digest later := by
  intro other value
  rw [removed, right other value]
  simp only [authorizes_disable]
  constructor
  · rintro ⟨differs, counted, authorized, same⟩
    exact ⟨counted, ⟨differs, authorized⟩, same⟩
  · rintro ⟨counted, ⟨differs, authorized⟩, same⟩
    exact ⟨differs, counted, authorized, same⟩

/-- The accepted digest of an issued secret is the digest of the latest one, for the holder
it was issued to.
-/
theorem Matches.authorizes (right : registry.Matches digest accepts)
    (distinct : registry.Distinct digest) {owner holder : ω} {secret : σ}
    (known : (owner, secret) ∈ registry.issued) (accepted : accepts holder (digest secret))
    : owner = holder ∧ registry.Authorizes holder secret := by
  obtain ⟨counted, authorized, same⟩ := (right holder _).mp accepted
  have entry := distinct.eq (mem_issued_of_latest authorized.1) known same
  obtain ⟨rfl, rfl⟩ := Prod.mk.inj entry
  exact ⟨rfl, authorized⟩

/-- Nobody is accepted with a retired secret. -/
theorem Matches.not_accepts_of_retired (right : registry.Matches digest accepts)
    (distinct : registry.Distinct digest) {owner holder : ω} {secret : σ}
    (retired : registry.Retired owner secret)
    : ¬ accepts holder (digest secret) := by
  intro accepted
  obtain ⟨rfl, authorized⟩ := right.authorizes distinct retired.1 accepted
  exact retired.2 authorized

end TokenRegistry

end OpenCord.Library
