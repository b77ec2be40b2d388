/-
# HeaderBind.Ruby — bindings as Ruby source

The source is a list of lines.  Every definition is preceded by a blank line, a
comment names its users, and the body of a module is indented by two spaces for
each level.  A text with line ends of its own is indented on each of its lines;
blank lines are not indented.
-/
import HeaderBind.Binding.Basic
import HeaderBind.Identifier.Case

namespace HeaderBind.Ruby

set_option autoImplicit false

/-! ## Lines -/

def indent : String := "  "

/-- The indentation of a nesting level. -/
def indentation (level : Nat) : String := String.join (List.replicate level indent)

/-- One line at a nesting level; a blank line stays blank. -/
def indentLine (level : Nat) (line : String) : String :=
  if line = "" then "" else indentation level ++ line

/-- The lines of a text, separated by line ends. -/
def splitLines (text : String) : List String :=
  (text.toList.splitOn '\n').map String.ofList

/-- A text with each of its lines one level deeper. -/
def indentText (text : String) : String :=
  String.intercalate "\n" ((splitLines text).map (indentLine 1))

def commaSeparated (items : List String) : String := String.intercalate ", " items

/-! ## Definitions -/

def symbol (name : String) : String := ":" ++ name

/-- The comment that names the users of a definition. -/
def usersComment (users : List String) : String := "# " ++ commaSeparated users

def entryLine (entry : EnumEntry) : String :=
  match entry.value with
  | none => indent ++ symbol entry.name ++ ","
  | some value => indent ++ symbol entry.name ++ ", " ++ value ++ ","

def enumLines (binding : EnumBinding) : List String :=
  [usersComment binding.users,
    binding.name ++ " = enum " ++ symbol (Identifier.snakeCase binding.name) ++ ", ["] ++
    binding.entries.map entryLine ++ ["]"]

/-- What the fields of a record are introduced by. -/
def layoutLead : String := indent ++ "layout "

def fieldText (field : RecordField) : String :=
  symbol field.name ++ ", " ++ field.type.spelling

/-- The fields of a record, below one another. -/
def layoutText (fields : List RecordField) : String :=
  layoutLead ++
    String.intercalate (",\n" ++ String.ofList (List.replicate layoutLead.length ' '))
      (fields.map fieldText)

def recordBody (binding : RecordBinding) : List String :=
  if binding.isOpaque then [indent ++ "# opaque"]
  else if binding.fields.isEmpty then []
  else [layoutText binding.fields]

def recordLines (binding : RecordBinding) : List String :=
  [usersComment binding.users,
    "class " ++ binding.name ++ " < " ++
      (if binding.isUnion then "FFI::Union" else "FFI::Struct")] ++
    recordBody binding ++ ["end"]

/-! ## Modules -/

def callableLine (binding : CallableBinding) : String :=
  (if binding.isCallback then "callback" else "attach_function") ++ " " ++ symbol binding.name ++
    ", [" ++ commaSeparated (binding.params.map FfiType.spelling) ++ "], " ++
    binding.result.spelling

/-- What makes a module a binding of a native library. -/
def libraryLines (nativeLibrary : String) : List String :=
  ["extend FFI::Library", "ffi_lib '" ++ nativeLibrary ++ "'"]

/-- The nested modules of a header, with its callbacks before its functions. -/
def headerLines (nativeLibrary : String) (bindings : HeaderBindings) : List String :=
  let depth := bindings.modules.length
  bindings.modules.zipIdx.map (fun (name, level) => indentation level ++ "module " ++ name) ++
    (libraryLines nativeLibrary ++ [""] ++ bindings.callbacks.map callableLine ++
      bindings.functions.map callableLine).map (indentLine depth) ++
    (List.range depth).reverse.map fun level => indentation level ++ "end"

/-! ## The whole source -/

/-- The blocks of a library, each after a blank line. -/
def blockLines (nativeLibrary : String) (bindings : Bindings) : List String :=
  (bindings.enums.map enumLines ++ bindings.records.map recordLines ++
    bindings.headers.map (headerLines nativeLibrary)).flatMap fun block => "" :: block

def sourceLines (bindings : Bindings) (moduleName nativeLibrary : String) : List String :=
  ["# Generated Ruby FFI bindings",
    "# This file was automatically generated by ffigen.",
    "require 'ffi'",
    "",
    "module " ++ moduleName] ++
    (libraryLines nativeLibrary ++ blockLines nativeLibrary bindings).map indentText ++ ["end"]

/-- The Ruby source of the bindings of a library. -/
def source (bindings : Bindings) (moduleName nativeLibrary : String) : String :=
  String.intercalate "\n" (sourceLines bindings moduleName nativeLibrary) ++ "\n"

end HeaderBind.Ruby
