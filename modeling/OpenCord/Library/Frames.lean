import Mathlib.Order.Defs.Unbundled
import OpenCord.Library.Effects

/-! What computations may do to their state, as a relation between the states before and after
them. A sequence stays within a preorder that its parts stay within.
-/

namespace OpenCord.Library.Eff

variable {σ τ ε δ α β : Type}

/-- A sequence whose first part succeeds has a property where the second part ends. -/
theorem after_bind_to {property : σ → Prop} {action : Eff σ ε α} {next : α → Eff σ ε β}
    {state middle : σ} {value : α} (ran : action.exec state = (.ok value, middle))
    (rest : property ((next value).after middle))
    : property ((action >>= next).after state) :=
  after_bind_of_ok ran ▸ rest

/-- A sequence whose first part fails has a property where that part ends. -/
theorem after_bind_stop {property : σ → Prop} {action : Eff σ ε α} {next : α → Eff σ ε β}
    {state middle : σ} {error : ε} (failed : action.exec state = (.error error, middle))
    (here : property middle)
    : property ((action >>= next).after state) :=
  after_bind_of_error failed ▸ here

/-- Wherever a computation ends, its state is related to the one it started in. -/
def Within (relation : σ → σ → Prop) (action : Eff σ ε α) : Prop :=
  ∀ state, relation state (action.after state)

namespace Within

variable {relation : σ → σ → Prop}

theorem pure [Std.Refl relation] (value : α)
    : Within relation (Pure.pure value : Eff σ ε α) :=
  fun state => Std.Refl.refl state

theorem throw [Std.Refl relation] (error : ε)
    : Within relation (MonadExcept.throw error : Eff σ ε α) :=
  fun state => Std.Refl.refl state

theorem writes {update : σ → σ} (related : ∀ state, relation state (update state))
    : Within relation (Eff.writes update : Eff σ ε Unit) :=
  related

/-- A sequence that starts by reading the state stays within what the rest stays within. -/
theorem get_bind {next : σ → Eff σ ε β} (rest : ∀ state, Within relation (next state))
    : Within relation ((get : Eff σ ε σ) >>= next) :=
  fun state => rest state state

/-- A check changes nothing, and may stop the sequence. -/
theorem check_bind [Std.Refl relation] {check : Except ε α} {next : α → Eff σ ε β}
    (rest : ∀ value, check = .ok value → Within relation (next value))
    : Within relation ((liftM check : Eff σ ε α) >>= next) :=
  fun state => after_check_bind (Std.Refl.refl state) fun value passed => rest value passed state

theorem bind [IsTrans σ relation] {action : Eff σ ε α} {next : α → Eff σ ε β}
    (first : Within relation action) (rest : ∀ value, Within relation (next value))
    : Within relation (action >>= next) :=
  fun state => after_bind_of_after (first state) fun value =>
    IsTrans.trans _ _ _ (first state) (rest value _)

/-- A part may change in any way that the relation does not see. -/
theorem zoom {part : τ → σ} {update : τ → σ → τ} {lift : ε → δ} {relation : τ → τ → Prop}
    {action : Eff σ ε α}
    (related : ∀ state, relation state (update state (action.after (part state))))
    : Within relation (Eff.zoom part update lift action) :=
  related

end Within

end OpenCord.Library.Eff
