import TuiTemplate.Template.Line
import TuiTemplate.Widget.Registry
set_option autoImplicit false

namespace TuiTemplate

/-- Why a template gave no widget: it is malformed, or the factory of a kind broke down. -/
inductive CompileError where
  | malformed (error : TemplateError)
  | factory (fault : Fault)

namespace CompileError

def ofResolve : ResolveError → CompileError
  | .unknown error => .malformed error
  | .factory fault => .factory fault

def toFault : CompileError → Fault
  | .malformed error => .failure (.ofTemplate error)
  | .factory fault => fault

end CompileError

namespace Line

/-- The fault found on a line, with the line as written. -/
def fault (line : Line) (fault : TemplateFault) : CompileError :=
  .malformed ⟨some line.number, some line.raw, fault⟩

end Line

/-- How far reading some lines has come: its outcome, and the lines it left, which are the last
of the given ones. -/
structure Progress (lines : List Line) where
  outcome : Except CompileError Node
  rest : List Line
  suffix : rest <:+ lines

namespace Progress

/-- The same progress, seen from lines further up. -/
def within {lines : List Line} (p : Progress lines) {all : List Line} (h : lines <:+ all) :
    Progress all :=
  ⟨p.outcome, p.rest, p.suffix.trans h⟩

/-- The number of lines consumed. -/
def position {lines : List Line} (p : Progress lines) : Nat := lines.length - p.rest.length

end Progress

/-- Reads the block of `parent`: the lines indented by exactly `indent`, each with the blocks
below it. Attributes come first and then children. The block ends before a line that is indented
less, and a line that fits no block is left unread. -/
def parseBlock (registry : Registry) (parent : Node) (indent : Nat) (sawChild : Bool)
    (lines : List Line) : Progress lines :=
  match lines with
  | [] => ⟨.ok parent, [], List.suffix_rfl⟩
  | line :: rest =>
    if line.indent < indent then
      if line.indent % indentStep = 0 then ⟨.ok parent, line :: rest, List.suffix_rfl⟩
      else ⟨.error (line.fault (.indentation indent)), line :: rest, List.suffix_rfl⟩
    else if line.indent ≠ indent then
      ⟨.error (line.fault (.indentation indent)), line :: rest, List.suffix_rfl⟩
    else if isDeclaration line.text then
      match registry.resolve (declaredKind line.text) (some line.number) with
      | .error e => ⟨.error (.ofResolve e), rest, List.suffix_cons line rest⟩
      | .ok node =>
        match parseBlock registry node (indent + indentStep) false rest with
        | ⟨.error e, left, suffix⟩ =>
          ⟨.error e, left, suffix.trans (List.suffix_cons line rest)⟩
        | ⟨.ok child, left, suffix⟩ =>
          match parent.acceptChild child (some line.number) with
          | .error e => ⟨.error (.malformed e), left, suffix.trans (List.suffix_cons line rest)⟩
          | .ok grown =>
            have := suffix.length_le
            (parseBlock registry grown indent true left).within
              (suffix.trans (List.suffix_cons line rest))
    else if isAttribute line.text then
      if sawChild then
        ⟨.error (line.fault .lateAttribute), rest, List.suffix_cons line rest⟩
      else
        let parts := attributeParts line.text
        match parent.acceptAttribute parts.1 parts.2 (some line.number) with
        | .error e => ⟨.error (.malformed e), rest, List.suffix_cons line rest⟩
        | .ok grown =>
          (parseBlock registry grown indent sawChild rest).within (List.suffix_cons line rest)
    else ⟨.error (line.fault .notInBlock), rest, List.suffix_cons line rest⟩
termination_by lines.length

/-- The kinds declared on the top level among the given lines. -/
def rootKinds (lines : List Line) : List String :=
  (lines.filter fun line => line.indent = 0 && isDeclaration line.text).map fun line =>
    declaredKind line.text

/-- What a document may end with: nothing. A further line is a second root or no root at all. -/
def afterRoot (root : Node) : List Line → Except CompileError Node
  | [] => .ok root
  | line :: rest =>
    if isDeclaration line.text then
      .error (line.fault (.manyRoots (root.kind :: rootKinds (line :: rest))))
    else .error (line.fault .notDeclaration)

/-- Reads a whole document: one declaration of a container on the top level, with its block. -/
def parse (registry : Registry) (lines : List Line) : Progress lines :=
  match lines with
  | [] => ⟨.error (.malformed .noRoot), [], List.suffix_rfl⟩
  | line :: rest =>
    if line.indent ≠ 0 then
      ⟨.error (line.fault (.indentation 0)), line :: rest, List.suffix_rfl⟩
    else if !isDeclaration line.text then
      ⟨.error (line.fault .notDeclaration), rest, List.suffix_cons line rest⟩
    else
      let kind := declaredKind line.text
      match registry.resolve kind (some line.number) with
      | .error e => ⟨.error (.ofResolve e), rest, List.suffix_cons line rest⟩
      | .ok node =>
        if registry.isContainer kind then
          let block := parseBlock registry node indentStep false rest
          ⟨block.outcome.bind fun root => afterRoot root block.rest, block.rest,
            block.suffix.trans (List.suffix_cons line rest)⟩
        else
          ⟨.error (line.fault (.rootNotContainer kind)), rest, List.suffix_cons line rest⟩

/-- The widget that a template declares. -/
def compile (registry : Registry) (source : String) : Except CompileError Node :=
  (parse registry (scan source)).outcome

/-- A template that compiles leaves a note in the log, and one that does not leaves none. -/
def compileLog (registry : Registry) (source : String) : List LogRecord :=
  match compile registry source with
  | .error _ => []
  | .ok root =>
    [⟨.parser, .debug, "Compiled template with root " ++ root.kind ++ " (" ++
      toString (scan source).length ++ " lines)"⟩]

end TuiTemplate
