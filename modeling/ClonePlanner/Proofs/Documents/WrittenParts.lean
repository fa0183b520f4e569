import ClonePlanner.Decoding.Declaration
import ClonePlanner.Encoding.Declaration

/-! Parts without a structure of their own decode to what was written: names from a fixed
choice, words, and lists of parts that do so.
-/

namespace ClonePlanner.Decoding

open ClonePlanner.Json (Value)

variable {α : Type}

@[simp]
theorem text_string (value : String) : text (.string value) = .ok value := rfl

@[simp]
theorem flag_bool (value : Bool) : flag (.bool value) = .ok value := rfl

/-- A written name is the name of one value only. -/
@[simp]
theorem choice_name [Named α] (setting : Setting) (value : α)
    : choice setting (Encoding.name value) = .ok value := by
  simp only [Encoding.name, choice, choiceName, Named.ofName?_name]

/-- A written tag is read by its name, whatever stands around it. -/
@[simp]
theorem tag_name [Named α] (setting : Setting) (value : α)
    : tag setting (Encoding.name value) = .ok value := by
  simp only [Encoding.name, tag, choiceName, Named.ofName?_name]

/-- A written word is in range, and below 2^32 a word and its number determine each other. -/
@[simp]
theorem word32_word32 (value : UInt32) : word32 (Encoding.word32 value) = .ok value := by
  have below := value.toNat_lt
  have range : (0 : Int) ≤ value.toNat ∧ (value.toNat : Int) < 4294967296 := by omega
  simp only [Encoding.word32, word32, range, and_self, if_true, Int.toNat_natCast,
    UInt32.ofNat_toNat]

/-- Written items are read in order if each is, by induction over the items. -/
theorem items_map {decode : Value → Decoded α} {encode : α → Value}
    (inverse : ∀ value, decode (encode value) = .ok value) (index : Nat) (values : List α)
    : items decode index (values.map encode) = .ok values := by
  induction values generalizing index with
  | nil => rfl
  | cons first rest ih =>
      simp only [List.map_cons, items, inverse, Decoded.under_ok, ih, Except.map]

/-- A written list is read if each item is. -/
theorem list_array {decode : Value → Decoded α} {encode : α → Value}
    (inverse : ∀ value, decode (encode value) = .ok value) (values : List α)
    : list decode (.array (values.map encode)) = .ok values :=
  items_map inverse 0 values

end ClonePlanner.Decoding
