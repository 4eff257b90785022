import CrateState.Relational.Document.Path

/-!
# Merge patches

`json_patch(target, patch)` applies a merge patch (RFC 7396). A patch that is no object
replaces the target. Otherwise the target becomes an object (`{}` if it is none) and each
patch member, in order, is applied to it:

* when a target member has its label (the first, labels matched as paths match them), a
  `null` value removes it and any other is merged into it;
* otherwise `null` is skipped, an object is merged into `null` (dropping its `null` members
  all the way down) and added at the end, and any other value added at the end as is.

Members added by earlier patch members are matched too: a label given twice merges the
second into what the first added.
-/

namespace CrateState

namespace Relational

namespace Document

/-- Whether an element is `null`. -/
def Element.isNull : Element → Bool
  | .null => true
  | _ => false

def Element.isObject : Element → Bool
  | .object _ => true
  | _ => false

mutual

def Element.merge : Nat → Element → Element → Element
  | 0, t, _ => t
  | fuel + 1, t, .object patch =>
    let members := match t with
      | .object ms => ms
      | _ => []
    .object (mergeMembers fuel members patch)
  | _ + 1, _, p => p

/-- Applies the members of a patch one by one to the members of a target object. -/
def mergeMembers : Nat → List (Label × Element) → List (Label × Element) → List (Label × Element)
  | 0, members, _ => members
  | _ + 1, members, [] => members
  | fuel + 1, members, (l, v) :: rest =>
    let next := match findMember l.spelling.isLiteral l.text members 0 0 with
      | some (idx, _, tl, old) =>
        if v.isNull then members.eraseIdx idx else members.set idx (tl, Element.merge fuel old v)
      | none =>
        if v.isNull then members
        else if v.isObject then members ++ [(l, Element.merge fuel .null v)]
        else members ++ [(l, v)]
    mergeMembers fuel next rest

end

/-- Applies a merge patch to a document. -/
def Element.patch (target patch : Element) : Element :=
  Element.merge (2 * patch.length + 2) target patch

end Document

end Relational

end CrateState
