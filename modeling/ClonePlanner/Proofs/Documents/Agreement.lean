import ClonePlanner.Proofs.Documents.AcceptedParts

/-! Outcomes of decoding that agree. Two of them agree if they give the same value or both fail,
whatever is said of the failures; this is kept by everything that decoders are put together with.
-/

namespace ClonePlanner.Decoding

variable {α β : Type}

/-- The one outcome is a value exactly if the other is, and then they are the same. -/
def Decoded.Agree (left right : Decoded α) : Prop :=
  ∀ result, left = .ok result ↔ right = .ok result

namespace Decoded

theorem Agree.refl (decoded : Decoded α) : decoded.Agree decoded :=
  fun _ => .rfl

theorem agree_error (problem other : Problem) : Agree (.error problem : Decoded α) (.error other) :=
  fun _ => iff_of_false nofun nofun

theorem bind_eq_ok_iff {decoded : Decoded α} {next : α → Decoded β} {result : β}
    : decoded.bind next = .ok result ↔ ∃ value, decoded = .ok value ∧ next value = .ok result := by
  cases decoded <;> simp [Except.bind]

theorem map_eq_ok_iff {decoded : Decoded α} {f : α → β} {result : β}
    : decoded.map f = .ok result ↔ ∃ value, decoded = .ok value ∧ f value = result := by
  cases decoded <;> simp [Except.map]

theorem Agree.bind {left right : Decoded α} {f g : α → Decoded β} (agree : left.Agree right)
    (next : ∀ value, Agree (f value) (g value))
    : Agree (left.bind f) (right.bind g) := by
  intro result
  simp only [bind_eq_ok_iff, agree _, next _ _]

theorem Agree.map {left right : Decoded α} (agree : left.Agree right) (f : α → β)
    : Agree (left.map f) (right.map f) := by
  intro result
  simp only [map_eq_ok_iff, agree _]

end Decoded

/-- The one reading is ready exactly if the other is, and then with the same value. -/
def Reading.Agree (left right : Reading α) : Prop :=
  ∀ value, left = .ready value ↔ right = .ready value

namespace Reading

theorem Agree.map {left right : Reading α} (agree : left.Agree right) (f : α → β)
    : Reading.Agree (f <$> left) (f <$> right) := by
  intro result
  simp only [map_eq_ready_iff, agree _]

theorem Agree.seq {left right : Reading (α → β)} {first second : Reading α}
    (functions : left.Agree right) (values : first.Agree second)
    : Reading.Agree (left <*> first) (right <*> second) := by
  intro result
  simp only [seq_eq_ready_iff, functions _, values _]

theorem Agree.settle {left right : Reading α} (agree : left.Agree right)
    : Decoded.Agree left.settle right.settle := by
  intro result
  rw [settle_eq_ok_iff, settle_eq_ok_iff]
  exact agree result

end Reading

end ClonePlanner.Decoding
