import RoleAccess.Policy.Error

/-!
# Rules put together by callers

A permission rule can be put together from three values. The effect, the role
and the resource are examined in that order, and the first one that has the
wrong type is reported. Any collection can give the segments of a resource, a
mapping by its keys; a text cannot, although it has characters.

A report that shows a value needs the text of the value; if it has none, that is
reported instead (`RuleFault.showing`).
-/

namespace RoleAccess

/-- The members that a value gives when it is gone through; a text or a value
that has no members gives none. -/
def Value.members? : Value → Option (List Value)
  | list items | tuple items => some items
  | set members | frozenset members => some members
  | map entries => some (entries.map Prod.fst)
  | _ => none

/-- A fault whose wording shows some values. -/
def RuleFault.showing (values : List Value) (fault : RuleFault) : RuleFault :=
  if Value.areWritable values then fault else .unwritable

namespace PermissionRule

/-- The segments among the members of a resource; the first member that is no
segment is reported. -/
def segmentsOf (role : Value) : List Value → Except RuleFault (List SegmentPattern)
  | [] => .ok []
  | .segment pattern :: rest => return pattern :: (← segmentsOf role rest)
  | value :: _ => .error (.showing [value] (.badSegment role value))

/-- The segments that a value gives as the resource of a rule. -/
def resourceOf (role resource : Value) : Except RuleFault (List SegmentPattern) :=
  match resource with
  | .text _ | .bytes _ | .effect _ => .error (.textResource role resource)
  | _ =>
      match resource.members? with
      | none => .error (.badResource role resource)
      | some members => segmentsOf role members

/-- The rule made of an effect, a role and a resource. -/
def ofValues (effect role resource : Value) : Except RuleFault PermissionRule :=
  match effect with
  | .effect decision =>
      match role.characters? with
      | none => .error (.badRole role)
      | some name => return ⟨decision, name, ← resourceOf role resource⟩
  | _ => .error (.showing [role, effect] (.badEffect role effect))

end PermissionRule

end RoleAccess
