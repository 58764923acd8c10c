import SupplicantWatch.Corn
import SupplicantWatch.Ini
import SupplicantWatch.Json.Relaxed
import SupplicantWatch.Ron
import SupplicantWatch.Toml.Document
import SupplicantWatch.Yaml.Document

/-!
# Formats of settings files

The formats that a settings file may have. The extension of its name tells which one it is.
-/

namespace SupplicantWatch

inductive Format where
  | toml
  | json
  | yaml
  | ini
  | ron
  | json5
  | corn
deriving DecidableEq, Repr

namespace Format

def extensions : List (String × Format) :=
  [("toml", toml), ("json", json), ("yaml", yaml), ("yml", yaml), ("ini", ini), ("ron", ron),
   ("json5", json5), ("corn", corn)]

def document? (format : Format) (s : List Char) : Option Setting :=
  match format with
  | toml => Toml.document? s
  | json => Json.plain.document? s
  | yaml => Yaml.document? s
  | ini => Ini.document? s
  | ron => Ron.document? s
  | json5 => Json.relaxed.document? s
  | corn => Corn.document? s

end Format

end SupplicantWatch
