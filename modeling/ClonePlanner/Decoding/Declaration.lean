import ClonePlanner.Decoding.Descriptor
import ClonePlanner.Model.Declaration

/-!
Decoding declarations with their members. A document holds one declaration or a list of them.
-/

namespace ClonePlanner.Decoding

open ClonePlanner.Json (Value)

def capabilities : Value → Decoded Capabilities :=
  record .direct "struct Capabilities" 2 fun source =>
    Capabilities.mk
      <$> source.optional 0 "deep" false flag
      <*> source.optional 1 "shallow" false flag

def member : Value → Decoded MemberDescriptor :=
  record .direct "struct MemberDescriptor" 6 fun source =>
    MemberDescriptor.mk
      <$> source.required 0 "name" text
      <*> source.required 1 "type" descriptor
      <*> source.optional 2 "mutability" .mutable (choice .direct)
      <*> source.optional 3 "visibility" .publicWritable (choice .direct)
      <*> source.optional 4 "readable" true flag
      <*> source.optional 5 "is_static" false flag

def ancestor : Value → Decoded AncestorDeclaration :=
  record .direct "struct AncestorDeclaration" 2 fun source =>
    AncestorDeclaration.mk
      <$> source.required 0 "name" text
      <*> source.optional 1 "members" [] (list member)

def declaration : Value → Decoded TypeDeclaration :=
  record .direct "struct TypeDeclaration" 7 fun source =>
    TypeDeclaration.mk
      <$> source.required 0 "name" text
      <*> source.optional 1 "is_abstract" false flag
      <*> source.optional 2 "record_like" false flag
      <*> source.optional 3 "capabilities" .none capabilities
      <*> source.optional 4 "user_implemented" .none capabilities
      <*> source.optional 5 "members" [] (list member)
      <*> source.optional 6 "ancestors" [] (list ancestor)

def declarations : Value → Decoded (List TypeDeclaration)
  | .array values => items declaration 0 values
  | value => (declaration value).map ([·])

/-- The outcome for a document that came from a named place. -/
def withOrigin {α : Type} (origin : String) : Decoded α → Except DescriptorFault α
  | .ok value => .ok value
  | .error problem => .error ⟨origin, problem⟩

/-- The declarations of a document that came from a named place. -/
def declarationsFrom (origin : String) (document : Value)
    : Except DescriptorFault (List TypeDeclaration) :=
  withOrigin origin (declarations document)

end ClonePlanner.Decoding
