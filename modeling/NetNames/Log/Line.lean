import NetNames.Log
import NetNames.Text.Quoted

/-!
The line that shows a record: its level in five columns, its message, and its fields in order.
-/
namespace NetNames

def Level.column : Level → String
  | .error => "ERROR"
  | .warn => " WARN"
  | .info => " INFO"
  | .debug => "DEBUG"
  | .trace => "TRACE"

def FieldValue.text : FieldValue → String
  | .bare s => s
  | .quoted s => Text.quoted s
  | .number n => toString n
  | .flag b => if b then "true" else "false"
  | .optional none => "None"
  | .optional (some s) => "Some(" ++ Text.quoted s ++ ")"

def Record.line (r : Record) : String :=
  r.level.column ++ " " ++ r.message ++
    String.join (r.fields.map fun (name, value) => " " ++ name ++ "=" ++ value.text)

example : (Record.mk .info "added" [("dn", .quoted "cn=\"A\""), ("count", .number 2)]).line =
    " INFO added dn=\"cn=\\\"A\\\"\" count=2" := by decide +kernel

end NetNames
