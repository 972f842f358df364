-- What is known about a source file, as JSON.
import Docstring.Report.Document
import Docstring.Signature

namespace Docstring

def ParamFact.json (p : ParamFact) : Json :=
  .object
    ([("name", .text p.name.asString)] ++ textField? "annotation" p.hint ++
      [("has_default", .bool p.hasDefault)] ++ textField? "default" p.default ++
      [("kind", .text p.kind.name)])

def DocstringSite.json (s : DocstringSite) : Json :=
  .object [("span", s.span.json), ("indent", .text s.indent.asString)]

def SymbolFact.json (s : SymbolFact) : Json :=
  .object
    ([("name", .text s.name.asString), ("qualified_name", .text s.qualifiedName.asString),
        ("kind", .text s.kind.name), ("parameters", .array (s.parameters.map ParamFact.json))] ++
      textField? "return_annotation" s.returnHint ++
      [("is_generator", .bool s.isGenerator), ("is_async", .bool s.isAsync)] ++
      Json.field? "docstring" (s.docstring.map DocstringSite.json) ++ [("line", .natural s.line)])

def ValueShape.json (shape : ValueShape) : Json :=
  .object
    (("shape", .text shape.tag) ::
      match shape with
      | .call callee attributes =>
        ("callee", .text callee.asString) ::
          Json.items? "attributes" (attributes.map fun a => .text a.asString)
      | _ => [])

def AssignmentFact.json (a : AssignmentFact) : Json :=
  .object
    ([("target", .text a.target.asString), ("target_span", a.targetSpan.json),
        ("scope", .text a.scope.name)] ++
      textField? "annotation" a.hint ++ textField? "value" a.value ++
      [("value_kind", a.shape.json), ("simple_target", .bool a.isSimple),
        ("line", .natural a.line)])

def FileFacts.json (f : FileFacts) : Json :=
  .object
    [("symbols", .array (f.symbols.map SymbolFact.json)),
      ("assignments", .array (f.assignments.map AssignmentFact.json))]

def Edit.json (e : Edit) : Json :=
  .object
    [("file_id", .natural e.file), ("span", e.span.json), ("text", .text e.text.asString),
      ("labels",
        .object
          (Json.field? "operation" (e.labels.operation.map .text) ++
            Json.field? "symbol" (e.labels.symbol.map .text) ++
            Json.field? "reason" (e.labels.reason.map .text)))]

def FixReport.json (r : FixReport) : Json :=
  .object
    ([("file_id", .natural r.file), ("edits", .array (r.edits.map Edit.json)),
        ("outcomes", .array (r.outcomes.map SymbolOutcome.json))] ++
      Json.items? "findings" (r.findings.map Finding.json))

end Docstring
