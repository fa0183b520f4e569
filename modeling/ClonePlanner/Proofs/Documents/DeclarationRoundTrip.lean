import ClonePlanner.Proofs.Documents.DescriptorRoundTrip

/-! Written declarations decode to themselves, alone and in a list. Each record is written with
all of its fields, so none of the defaults is used, and each list is decoded item by item.
-/

namespace ClonePlanner.Decoding

open ClonePlanner.Json (Value)

attribute [local simp] record Source.required Source.optional Source.field Source.part?
  Source.locate

theorem capabilities_encoding (value : Capabilities)
    : capabilities (Encoding.capabilities value) = .ok value := by
  simp [capabilities, Encoding.capabilities]

theorem member_encoding (value : MemberDescriptor)
    : member (Encoding.member value) = .ok value := by
  simp [member, Encoding.member, descriptor_encoding]

theorem ancestor_encoding (value : AncestorDeclaration)
    : ancestor (Encoding.ancestor value) = .ok value := by
  simp [ancestor, Encoding.ancestor, list_array member_encoding]

theorem declaration_encoding (value : TypeDeclaration)
    : declaration (Encoding.declaration value) = .ok value := by
  simp [declaration, Encoding.declaration, capabilities_encoding, list_array member_encoding,
    list_array ancestor_encoding]

/-- A document that is one written declaration holds that declaration only. -/
theorem declarations_single (value : TypeDeclaration)
    : declarations (Encoding.declaration value) = .ok [value] := by
  have decoded := declaration_encoding value
  rw [Encoding.declaration] at decoded ⊢
  rw [declarations, decoded]
  · rfl
  · simp

/-- A document that is a written list of declarations holds these, in order. -/
theorem declarations_list (values : List TypeDeclaration)
    : declarations (Encoding.declarations values) = .ok values :=
  items_map declaration_encoding 0 values

/-- What is read from a document is read again from its written form, whatever else the
document held: lists and single declarations decode to themselves, so decoding what was decoded
and written changes nothing.
-/
theorem declarationsFrom_encoding (origin : String)
    : (∀ values : List TypeDeclaration,
        declarationsFrom origin (Encoding.declarations values) = .ok values)
      ∧ (∀ value : TypeDeclaration,
          declarationsFrom origin (Encoding.declaration value) = .ok [value])
      ∧ ∀ (document : Value) (again : String),
          ((declarationsFrom origin document).bind fun decoded =>
              declarationsFrom again (Encoding.declarations decoded))
            = declarationsFrom origin document := by
  have lists (place : String) (values : List TypeDeclaration)
      : declarationsFrom place (Encoding.declarations values) = .ok values := by
    simp only [declarationsFrom, declarations_list, withOrigin]
  refine ⟨lists origin, fun value => ?_, fun document again => ?_⟩
  · simp only [declarationsFrom, declarations_single, withOrigin]
  · cases decoded : declarationsFrom origin document with
    | error fault => rfl
    | ok values => exact lists again values

end ClonePlanner.Decoding
