import CardLogic.Proofs.Except
import CardLogic.Value.Text

/-!
Which values have a text.

The text of a value is put together from the texts of what it holds, and of these only a whole
number may have none.  So a value has a text just if all its whole numbers are short
(`isOk_fieldText`), shown to a reader or told to the program.
-/

namespace CardLogic.Value

theorem isOk_writeInt (n : Int) : (Decimal.writeInt n).isOk = Decimal.isShort n := by
  unfold Decimal.writeInt
  cases Decimal.isShort n <;> rfl

mutual

theorem isOk_display : ∀ v : Value, (display v).isOk = v.isWritable
  | null => rfl
  | bool _ => rfl
  | whole n => isOk_writeInt n
  | real _ => rfl
  | text _ => rfl
  | list items => by rw [display, Except.isOk_map, isOk_displayItems, isWritable]
  | object fields => by rw [display, Except.isOk_map, isOk_displayFields, isWritable]

theorem isOk_displayItems : ∀ vs : List Value, (displayItems vs).isOk = areWritable vs
  | [] => rfl
  | [v] => by rw [displayItems, isOk_display v, areWritable, areWritable, Bool.and_true]
  | v :: w :: vs => by
    rw [displayItems, Except.isOk_bind_bind, isOk_display v, isOk_displayItems (w :: vs)]
    · rfl
    · simp

theorem isOk_displayFields :
    ∀ fs : List (Text × Value), (displayFields fs).isOk = fieldsAreWritable fs
  | [] => rfl
  | [(n, v)] => by
    rw [displayFields, Except.isOk_map, isOk_display v, fieldsAreWritable, fieldsAreWritable,
      Bool.and_true]
  | (n, v) :: f :: fs => by
    rw [displayFields, Except.isOk_bind_bind, isOk_display v, isOk_displayFields (f :: fs)]
    · rfl
    · simp

end

mutual

/-- A value has a text just if all its whole numbers are short. -/
theorem isOk_fieldText : ∀ v : Value, (fieldText v).isOk = v.isWritable
  | null => rfl
  | bool _ => rfl
  | whole n => by rw [fieldText, Except.isOk_map, isOk_writeInt, isWritable]
  | real _ => rfl
  | text _ => rfl
  | list items => by rw [fieldText, isOk_fieldTexts, isWritable]
  | object fields => by rw [fieldText, Except.isOk_map, isOk_display]

theorem isOk_fieldTexts : ∀ vs : List Value, (fieldTexts vs).isOk = areWritable vs
  | [] => rfl
  | [v] => by rw [fieldTexts, isOk_fieldText v, areWritable, areWritable, Bool.and_true]
  | v :: w :: vs => by
    rw [fieldTexts, Except.isOk_bind_bind, isOk_fieldText v, isOk_fieldTexts (w :: vs)]
    · rfl
    · simp

end

end CardLogic.Value
