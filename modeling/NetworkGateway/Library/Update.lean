import Mathlib.Data.Option.Basic

/-! Partial updates of a field that is kept in a form of its own. -/

namespace Library.Update

variable {β : Type} {form : Option β → Option β} {named held : Option β}

/-- The value an update names, or else the one held, brought into the field's form. -/
def updated (form : Option β → Option β) (named held : Option β) : Option β := form (named.or held)

/-- A field in its form stays as it is when it is not named. -/
theorem updated_unnamed (formed : form held = held) : updated form none held = held := formed

theorem updated_formed (idempotent : ∀ value, form (form value) = form value) :
    form (updated form named held) = updated form named held :=
  idempotent _

theorem or_updated (formed : form held = held) : named.or (updated form named held) = named.or held := by
  cases named with
  | none => exact formed
  | some value => rfl

theorem updated_twice (formed : form held = held) :
    updated form named (updated form named held) = updated form named held := by
  calc
    _ = form (named.or held) := congrArg form (or_updated formed)
    _ = updated form named held := rfl

end Library.Update
