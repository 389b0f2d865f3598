import Inventory.Host.Files
/-!
# The bundled schema

The schema the repository ships for the documents the program writes: an object whose
listed members have fixed types (`width` a non-negative integer, `children` an array of
objects), other members allowed. It lives at `schemas/system_info.schema.json` under the
directory the program is built in.
-/

set_option autoImplicit false

namespace Inventory.Schema

/-- The text of the bundled schema file. -/
def bundledText : String :=
  "\x7b\n" ++
  "  \"$schema\": \"http://json-schema.org/draft-07/schema#\",\n" ++
  "  \"title\": \"SystemInfo\",\n" ++
  "  \"description\": \"Hardware inventory reported by the probe, optionally carrying the image manifest\",\n" ++
  "  \"type\": \"object\",\n" ++
  "  \"properties\": \x7b\n" ++
  "    \"manifest_file\": \x7b\n" ++
  "      \"type\": \"string\",\n" ++
  "      \"description\": \"Raw manifest text with line breaks replaced by spaces\"\n" ++
  "    \x7d,\n" ++
  "    \"id\": \x7b \"type\": \"string\" \x7d,\n" ++
  "    \"class\": \x7b \"type\": \"string\" \x7d,\n" ++
  "    \"claimed\": \x7b \"type\": \"boolean\" \x7d,\n" ++
  "    \"handle\": \x7b \"type\": \"string\" \x7d,\n" ++
  "    \"description\": \x7b \"type\": \"string\" \x7d,\n" ++
  "    \"product\": \x7b \"type\": \"string\" \x7d,\n" ++
  "    \"vendor\": \x7b \"type\": \"string\" \x7d,\n" ++
  "    \"version\": \x7b \"type\": \"string\" \x7d,\n" ++
  "    \"serial\": \x7b \"type\": \"string\" \x7d,\n" ++
  "    \"width\": \x7b \"type\": \"integer\", \"minimum\": 0 \x7d,\n" ++
  "    \"configuration\": \x7b \"type\": \"object\" \x7d,\n" ++
  "    \"capabilities\": \x7b \"type\": \"object\" \x7d,\n" ++
  "    \"children\": \x7b\n" ++
  "      \"type\": \"array\",\n" ++
  "      \"items\": \x7b \"type\": \"object\" \x7d\n" ++
  "    \x7d\n" ++
  "  \x7d,\n" ++
  "  \"additionalProperties\": true\n" ++
  "\x7d\n"

/-- Where the bundled schema lies under a repository directory. -/
def bundledPath (repo : String) : String := repo ++ "/schemas/system_info.schema.json"

/-- A file tree with the bundled schema under a repository directory. -/
def withBundled (fs : Files) (repo : String) : Files :=
  fs.putAll (bundledPath repo) (.file (Utf8.ofString bundledText) false)

end Inventory.Schema
