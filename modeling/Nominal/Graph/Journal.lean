/-!
# The journal

The type graph keeps two kinds of records.  A trace record says that a computation was made for a
type; a log record is a message for the operator.
-/

namespace Nominal

/-- A computation that is traced. -/
inductive TraceOperation where
  | sealType
  | ancestors
  | extensions
  | classMemberMap
  | interfaceMemberMap
  deriving Repr, DecidableEq

/-- The name of a traced computation. -/
def TraceOperation.label : TraceOperation → String
  | sealType => "sema.seal"
  | ancestors => "sema.ancestors"
  | extensions => "sema.extensions"
  | classMemberMap => "sema.classMemberMap"
  | interfaceMemberMap => "sema.interfaceMemberMap"

/-- The value of an attribute of a record. -/
inductive AttributeValue where
  | text (content : String)
  | number (value : Nat)
  | flag (value : Bool)
  deriving Repr, DecidableEq

/-- How an attribute value is written. -/
def AttributeValue.describe : AttributeValue → String
  | text content => content
  | number value => toString value
  | flag value => if value then "true" else "false"

/-- A traced computation. -/
inductive TraceRecord where
  /-- A computation for a type. -/
  | ofType (operation : TraceOperation) (type : String) (index : Nat) (isSealed : Bool)
  /-- The construction of the built-in types. -/
  | bootstrap (types : Nat)
  deriving Repr, DecidableEq

namespace TraceRecord

/-- The name of the computation of a record. -/
def label : TraceRecord → String
  | ofType operation .. => operation.label
  | bootstrap _ => "stdlib.bootstrap"

/-- What a record says about the computation. -/
def attributes : TraceRecord → List (String × AttributeValue)
  | ofType _ type index isSealed =>
    [("type", .text type), ("index", .number index), ("sealed", .flag isSealed)]
  | bootstrap types => [("types", .number types)]

/-- A record on one line: its name, followed by its attributes. -/
def describe (record : TraceRecord) : String :=
  " ".intercalate (record.label
    :: record.attributes.map fun entry => entry.1 ++ "=" ++ entry.2.describe)

end TraceRecord

/-- A message for the operator. -/
inductive LogRecord where
  | classStub (type : String) (index : Nat)
  | interfaceStub (type : String) (index : Nat)
  | sealedType (type : String) (staticMembers instanceMembers : Nat)
  | classMemberMap (type : String) (isStatic : Bool) (ranks : Nat)
  | interfaceMemberMap (type : String) (members : Nat)
  | bootstrapped (types : Nat)
  | reset
  | loadedModule (name : String) (types : Nat)
  deriving Repr, DecidableEq

namespace LogRecord

/-- The message of a record. -/
def message : LogRecord → String
  | classStub .. => "created class stub"
  | interfaceStub .. => "created interface stub"
  | sealedType .. => "sealed type"
  | classMemberMap .. => "built class member map"
  | interfaceMemberMap .. => "built interface member map"
  | bootstrapped _ => "bootstrapped built-in types"
  | reset => "reset built-in types"
  | loadedModule .. => "loaded module"

/-- What a record says next to its message. -/
def attributes : LogRecord → List (String × AttributeValue)
  | classStub type index | interfaceStub type index =>
    [("type", .text type), ("index", .number index)]
  | sealedType type staticMembers instanceMembers =>
    [("type", .text type), ("staticMembers", .number staticMembers),
      ("instanceMembers", .number instanceMembers)]
  | classMemberMap type isStatic ranks =>
    [("type", .text type), ("static", .flag isStatic), ("ranks", .number ranks)]
  | interfaceMemberMap type members => [("type", .text type), ("members", .number members)]
  | bootstrapped types => [("types", .number types)]
  | reset => []
  | loadedModule name types => [("module", .text name), ("types", .number types)]

/-- Whether a record is only of interest for debugging. -/
def isDebug : LogRecord → Bool
  | bootstrapped _ | reset | loadedModule .. => false
  | _ => true

end LogRecord

/-- The records so far, oldest first. -/
structure Journal where
  traces : List TraceRecord := []
  logs : List LogRecord := []
  deriving Repr, DecidableEq, Inhabited

namespace Journal

/-- Adds a trace record. -/
def trace (journal : Journal) (record : TraceRecord) : Journal :=
  { journal with traces := journal.traces ++ [record] }

/-- Adds a log record. -/
def log (journal : Journal) (record : LogRecord) : Journal :=
  { journal with logs := journal.logs ++ [record] }

end Journal

end Nominal
