import EnumHeader.Document

/-!
# Starter files

The configuration and the definitions that a new project begins with, in either format. The TOML
files are written out, with comments; the JSON files hold the same documents.
-/

namespace EnumHeader.Command

set_option autoImplicit false

def starterConfig : List String :=
  ["# enumwright configuration",
   "# Every key is optional; the values below are the defaults unless noted.",
   "",
   "# Namespace the generated types live in, outermost first (default: none)",
   "namespace = [\"demo\", \"gfx\"]",
   "",
   "# \"none\", \"pragma_once\" or \"c_style\"",
   "include_guard = \"pragma_once\"",
   "# include_guard_macro = \"DEMO_GFX_ENUMS_H\"",
   "",
   "# \"lf\" or \"crlf\"",
   "line_ending = \"lf\"",
   "indent = \"    \"",
   "",
   "# Lines copied verbatim to the top of the header",
   "preamble = [\"// \x43opyright (c) Demo Authors. MIT licensed.\"]",
   "# Bare names become <name>; \"quoted.h\" and <bracketed> are kept as written",
   "additional_includes = []",
   "",
   "# \"none\", \"names\" or \"names_and_descriptions\"",
   "string_table = \"names_and_descriptions\"",
   "# \"narrow\" (std::string_view) or \"wide\" (std::wstring_view)",
   "string_type = \"narrow\"",
   "",
   "emit_bitfield_macros = true",
   "emit_type_trait_extensions = true",
   "embed_timestamp = false",
   "",
   "# Namespace of the shared runtime templates; upper-cased it prefixes every macro",
   "runtime_namespace = \"enumwright\"",
   "",
   "# Reject flags entries that set more than one bit",
   "strict_single_bit_flags = false",
   "",
   "# \"min\", \"max\", \"first\" or \"last\" (\"zero\" and \"used_bits_set\" are flags only)",
   "value_enum_default_style = \"first\"",
   "flags_enum_default_style = \"zero\"",
   "",
   "default_value_enum_size_type = \"uint8\"",
   "default_flags_enum_size_type = \"uint32\""]

def starterDefinitions : List String :=
  ["# enumwright enum definitions",
   "#",
   "# Entries without a value continue from the previous one (value enums) or",
   "# take the next free bit (flags enums). Values may also be strings such as",
   "# \"0x80\", \"0b101\" or \"-1_000\" for numbers past the 64-bit range.",
   "",
   "[[value_enums]]",
   "name = \"Color\"",
   "description = \"Primary display colors\"",
   "entries = [",
   "    \x7b name = \"Red\", description = \"Long wavelength\" \x7d,",
   "    \x7b name = \"Green\" \x7d,",
   "    \x7b name = \"Blue\", description = \"Short wavelength\" \x7d,",
   "]",
   "",
   "[[value_enums]]",
   "name = \"Temperature\"",
   "description = \"Reference temperatures in degrees Celsius\"",
   "size_type = \"int16\"",
   "default_value = \"Room\"",
   "entries = [",
   "    \x7b name = \"Freezing\", value = -40 \x7d,",
   "    \x7b name = \"Zero\", value = 0 \x7d,",
   "    \x7b name = \"Room\", value = 21 \x7d,",
   "    \x7b name = \"Boiling\", value = 100 \x7d,",
   "]",
   "",
   "[[value_enums]]",
   "name = \"LogLevel\"",
   "default_style = \"max\"",
   "entries = [",
   "    \x7b name = \"Trace\" \x7d,",
   "    \x7b name = \"Debug\" \x7d,",
   "    \x7b name = \"Info\" \x7d,",
   "    \x7b name = \"Warn\" \x7d,",
   "    \x7b name = \"Warning\", value = 3, description = \"Alias of Warn\" \x7d,",
   "    \x7b name = \"Error\" \x7d,",
   "]",
   "",
   "[[flags_enums]]",
   "name = \"Access\"",
   "description = \"File access rights\"",
   "size_type = \"uint8\"",
   "entries = [",
   "    \x7b name = \"Read\" \x7d,",
   "    \x7b name = \"Write\" \x7d,",
   "    \x7b name = \"Execute\" \x7d,",
   "    \x7b name = \"ReadWrite\", value = \"0b011\", description = \"Composite of Read and Write\" \x7d,",
   "]",
   "",
   "[[flags_enums]]",
   "name = \"RenderPass\"",
   "size_type = \"uint64\"",
   "default_style = \"used_bits_set\"",
   "entries = [",
   "    \x7b name = \"Shadow\", value = \"0x1\" \x7d,",
   "    \x7b name = \"Opaque\", value = \"0x2\" \x7d,",
   "    \x7b name = \"Transparent\", value = \"0x4\" \x7d,",
   "    \x7b name = \"PostProcess\", value = \"0x1_0000_0000\" \x7d,",
   "]"]

def textOfLines (lines : List String) : String :=
  String.join (lines.map (· ++ "\n"))

def starterText (format : Document.Format) (lines : List String) : Except Failure String :=
  match format with
  | .toml => .ok (textOfLines lines)
  | .json => do
      let node ← Document.parse .toml (textOfLines lines)
      return Document.Json.write node ++ "\n"

def starterFiles (format : Document.Format) : Except Failure (List (String × String)) := do
  let config ← starterText format starterConfig
  let definitions ← starterText format starterDefinitions
  return [("enumwright." ++ format.extension, config), ("enums." ++ format.extension, definitions)]

end EnumHeader.Command
