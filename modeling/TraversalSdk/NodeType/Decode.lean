import TraversalSdk.NodeType.Basic

namespace TraversalSdk
open Checked

def ChildSpec.decode : Json → Checked ChildSpec :=
  object fun ms =>
    ChildSpec.mk <$> defaulted "multiple" false flag ms <*> defaulted "required" false flag ms
      <*> defaulted "types" [] (tuple NodeRef.decode) ms

namespace Descriptor

/-- Members that are not known are passed over. -/
def decode : Json → Checked Descriptor :=
  object fun ms =>
    (fun type named => Descriptor.mk ⟨type, named⟩) <$> required "type" text ms
      <*> required "named" flag ms
      <*> defaulted "root" false flag ms
      <*> defaulted "extra" false flag ms
      <*> defaulted "fields" [] (mapping ChildSpec.decode) ms
      <*> defaulted "children" none (nullable ChildSpec.decode) ms
      <*> defaulted "subtypes" none (nullable (tuple NodeRef.decode)) ms

/-- The declarations of a document. -/
def decodeAll : Json → Checked (List Descriptor)
  | .arr vs => each decode vs
  | _ => fail .notList

end Descriptor

end TraversalSdk
