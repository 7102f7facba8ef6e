import Datalink.Text.Encoding
import Datalink.Transaction.Phase
import Datalink.Value.Printer

/-!
# Faults

What can go wrong, by cause.  A fault that another fault led to holds it as its
cause.  The wording of every fault is in one place, `Fault.message`.
-/

namespace Datalink

/-- A failure reported from outside: by the engine, or by a caller's own code.  It
has the name of its kind and one argument. -/
structure Incident where
  kind : Text
  argument : Value
deriving Inhabited

namespace Incident

/-- The kinds of failure that an engine reports. -/
def engineKinds : List Text :=
  ["Error", "DatabaseError", "OperationalError", "IntegrityError",
    "ProgrammingError", "InterfaceError", "NotSupportedError", "InternalError",
    "DataError"]

/-- The kind of a text that was to be encoded and has no encoding. -/
def unencodableKind : Text := "UnicodeEncodeError"

/-- The kinds that ask the program to stop and are no failures of an operation. -/
def interruptKinds : List Text :=
  ["BaseException", "KeyboardInterrupt", "SystemExit", "GeneratorExit",
    "CancelledError"]

/-- The kinds of failure that are this library's own. -/
def ownKinds : List Text :=
  ["ConnectorError", "DatabaseUrlIsInvalid", "InvalidConnectionArguments",
    "ConnectionError", "QueryError", "ConversionError", "TransactionError",
    "ConnectorInvariantError"]

/-- The kinds of failure that an operating system reports. -/
def systemKinds : List Text :=
  ["OSError", "BlockingIOError", "ChildProcessError", "BrokenPipeError",
    "ConnectionAbortedError", "ConnectionRefusedError", "ConnectionResetError",
    "FileExistsError", "FileNotFoundError", "InterruptedError", "IsADirectoryError",
    "NotADirectoryError", "PermissionError", "ProcessLookupError", "TimeoutError"]

/-- Older names of the failures of an operating system. -/
def systemAliases : List Text := ["IOError", "EnvironmentError"]

/-- An incident of a kind, which may be given by an older name. -/
def make (kind : Text) (argument : Value) : Incident :=
  ⟨if systemAliases.contains kind then "OSError" else kind, argument⟩

/-- The kind of a failed lookup, whose argument is shown printed. -/
def lookupKind : Text := "KeyError"

/-- The kind that says that there are no more items.  It must not leave a routine. -/
def exhaustedKind : Text := "StopIteration"

/-- The kind of a database address that cannot be used. -/
def addressKind : Text := "DatabaseUrlIsInvalid"

/-- The wording for an address that cannot be used. -/
def addressMessage (path : Value) : Text := "Database url is invalid: " ++ path.print

/-- The text of an incident. -/
def message (i : Incident) : Text :=
  if i.kind = lookupKind then
    i.argument.print
  else if i.kind = addressKind then
    addressMessage i.argument
  else
    i.argument.display

/-- An incident as logs describe it: its kind with its argument. -/
def description (i : Incident) : Text :=
  let argument : Value :=
    if i.kind = addressKind then .text i.message else i.argument
  i.kind ++ "(" ++ argument.print ++ ")"

/-- Whether the text of an incident exists. -/
def wordable (i : Incident) : Bool :=
  if i.kind = lookupKind ∨ i.kind = addressKind then
    i.argument.printable
  else
    i.argument.displayable

end Incident

/-- What is wrong with the options of a session. -/
inductive OptionProblem where
  | notAPair (segment : Text)
  | badLimit (value : Text)
  | badCacheSize (value : Text)
  | limitNotPositive (limit : Value)
  | cacheSizeNegative (size : Value)
deriving Inhabited

/-- Why a value cannot be bound to a statement. -/
inductive BindingProblem where
  | unencodable (run : Text.SurrogateRun)
  | outOfRange (n : Int)
  | unsupported (value : Value)
  | notPositional (value : Value)
deriving Inhabited

/-- What an operation asks of a value that the type of the value does not offer. -/
inductive Misfit where
  | items (value : Value)
  /-- To be a key, or to stand in a set. -/
  | key (value : Value)
  | order (symbol : Text) (left right : Value)
  /-- To be added to a floating-point number. -/
  | sum (value : Value)
  | index (value : Value)
  | integer (value : Value)
  | decimalPlaces (value : Value)
  | json (value : Value)
  | jsonKey (value : Value)
  /-- To be the path of a file. -/
  | path (value : Value)
  /-- To be taken apart at a text, where the value is a run of bytes. -/
  | textOperation
  /-- To be left out, where nothing stands for it. -/
  | argument (name : Text)
deriving Inhabited

/-- What can go wrong. -/
inductive Fault where
  /-- Reported from outside. -/
  | incident (i : Incident)
  /-- A routine was told from outside that there are no more items. -/
  | exhausted
  /-- A text with a surrogate was to be encoded. -/
  | unencodable (run : Text.SurrogateRun)
  /-- A database address cannot be used. -/
  | address (path : Value)
  | options (problem : OptionProblem)
  | openFailed (path : Value) (cause : Fault)
  | closed (path : Value)
  /-- The engine refused a statement. -/
  | statement (sql : Value) (cause : Fault)
  | binding (problem : BindingProblem)
  | rowWidth (values columns : Nat)
  | negativeCount (count : Value)
  | noBackend
  | alreadyStarted (phase : Phase)
  | notStarted (phase : Phase)
  | control (control : Control) (cause : Fault)
  | tableMissing
  | assignmentsMissing (kind : Text)
  | unrenderable (typeName : Text)
  | journalMode (mode : Value)
  | journalFormat (format : Value)
  | journalFormatUnknown
  | bufferLength
  /-- A whole number is too long to be written or read. -/
  | digitLimit
  | isDirectory (path : Value)
  | notDirectory (path : Value)
  | fileMissing (path : Value)
  | fileExists (path : Value)
  | directoryNotEmpty (path : Value)
  | nameTooLong (path : Value)
  /-- A name holds the null character. -/
  | nullInName
  | indexOutOfRange
  | keyMissing (key : Value)
  /-- Something was looked for in a value that does not have it. -/
  | memberMissing (typeName member : Text)
  | misfit (problem : Misfit)
  /-- A signaling decimal was to be a key. -/
  | signalingKey
  /-- Decimals were compared, one of which is no number. -/
  | undefinedComparison
  /-- A value that is no number was to be written with decimal places. -/
  | placesOfText
  | numberTooLarge
  /-- A range is longer than any length. -/
  | lengthTooLarge
  /-- Too many items, or too many digits, to be held. -/
  | outOfMemory
  /-- A decimal has too many digits to be written with decimal places. -/
  | tooManyPlaces
  | nestedTooDeep
  | jsonMalformed
  | csvFieldTooLong
  | csvStrayLineEnd
deriving Inhabited

namespace OptionProblem

/-- The wording of a problem with an option. -/
def message : OptionProblem → Text
  | notAPair segment => "Expected key=value, got " ++ segment.quoted
  | badLimit value => "Invalid connection_limit: " ++ value.quoted
  | badCacheSize value => "Invalid statement_cache_size: " ++ value.quoted
  | limitNotPositive limit =>
      "connection_limit must be positive, got " ++ limit.display
  | cacheSizeNegative size =>
      "statement_cache_size must be non-negative, got " ++ size.display

end OptionProblem

/-- Whether the wording exists, which writes the refused number out. -/
def OptionProblem.wordable : OptionProblem → Bool
  | limitNotPositive limit => limit.displayable
  | cacheSizeNegative size => size.displayable
  | _ => true

/-- The wording of the complaint about surrogates. -/
def Text.SurrogateRun.message (run : SurrogateRun) : Text :=
  let whereabouts : Text :=
    if run.more = 0 then
      " '" ++ escapeByCode (0xD800 + run.first.val) ++ "' in position " ++
        Numeral.natural run.start
    else
      "s in position " ++ Numeral.natural run.start ++ "-" ++
        Numeral.natural (run.start + run.more)
  "'utf-8' codec can't encode character" ++ whereabouts ++ ": surrogates not allowed"

namespace BindingProblem

/-- The wording of a problem with a parameter. -/
def message : BindingProblem → Text
  | unencodable run => "Text is not valid UTF-8: " ++ run.message
  | outOfRange n => "Integer out of 64-bit range: " ++ Numeral.integer n
  | unsupported value =>
      "Cannot bind value of type " ++ value.typeName ++ ": " ++ value.print
  | notPositional value =>
      "Parameters must be a positional sequence, got " ++ value.typeName

/-- Whether the wording exists, which writes the refused value out. -/
def wordable : BindingProblem → Bool
  | outOfRange n => Numeral.writable n
  | unsupported value => value.printable
  | _ => true

end BindingProblem

namespace Misfit

/-- The wording of a misfit. -/
def message : Misfit → Text
  | items v => "'" ++ v.fullTypeName ++ "' object is not iterable"
  | key v => "unhashable type: '" ++ v.fullTypeName ++ "'"
  | order symbol left right =>
      "'" ++ symbol ++ "' not supported between instances of '" ++ left.fullTypeName ++
        "' and '" ++ right.fullTypeName ++ "'"
  | sum v =>
      "unsupported operand type(s) for +=: 'float' and '" ++ v.fullTypeName ++ "'"
  | index v => "list indices must be integers or slices, not " ++ v.fullTypeName
  | integer v => "__int__ returned non-int (type " ++ v.fullTypeName ++ ")"
  | decimalPlaces v =>
      "unsupported format string passed to " ++ v.fullTypeName ++ ".__format__"
  | json v => "Object of type " ++ v.typeName ++ " is not JSON serializable"
  | jsonKey v =>
      "keys must be str, int, float, bool or None, not " ++ v.fullTypeName
  | path v => "expected str, bytes or os.PathLike object, not " ++ v.fullTypeName
  | textOperation => "a bytes-like object is required, not 'str'"
  | argument name => "missing a required argument: '" ++ name ++ "'"

end Misfit

namespace Fault

/-- The failure that an incident becomes when it leaves a routine. -/
def ofIncident (i : Incident) : Fault :=
  if i.kind = Incident.exhaustedKind then exhausted else incident i

/-- The name of a fault's kind. -/
def kind : Fault → Text
  | incident i => i.kind
  | exhausted => "RuntimeError"
  | unencodable _ => Incident.unencodableKind
  | address _ => Incident.addressKind
  | options _ => "InvalidConnectionArguments"
  | openFailed .. => "ConnectionError"
  | closed _ => "ConnectionError"
  | statement .. => "QueryError"
  | binding _ => "ConversionError"
  | rowWidth .. => "ConnectorInvariantError"
  | negativeCount _ => "ConnectorInvariantError"
  | noBackend => "TransactionError"
  | alreadyStarted _ => "TransactionError"
  | notStarted _ => "TransactionError"
  | control .. => "TransactionError"
  | tableMissing => "ValueError"
  | assignmentsMissing _ => "ValueError"
  | unrenderable _ => "TypeError"
  | journalMode _ => "ValueError"
  | journalFormat _ => "ValueError"
  | journalFormatUnknown => "ValueError"
  | bufferLength => "ValueError"
  | digitLimit => "ValueError"
  | isDirectory _ => "IsADirectoryError"
  | notDirectory _ => "NotADirectoryError"
  | fileMissing _ => "FileNotFoundError"
  | fileExists _ => "FileExistsError"
  | directoryNotEmpty _ => "OSError"
  | nameTooLong _ => "OSError"
  | nullInName => "ValueError"
  | indexOutOfRange => "IndexError"
  | keyMissing _ => Incident.lookupKind
  | memberMissing .. => "AttributeError"
  | misfit _ => "TypeError"
  | signalingKey => "TypeError"
  | undefinedComparison => "InvalidOperation"
  | placesOfText => "ValueError"
  | numberTooLarge => "OverflowError"
  | lengthTooLarge => "OverflowError"
  | outOfMemory => "MemoryError"
  | tooManyPlaces => "ValueError"
  | nestedTooDeep => "RecursionError"
  | jsonMalformed => "JSONDecodeError"
  | csvFieldTooLong => "Error"
  | csvStrayLineEnd => "Error"

/-- The wording of a fault. -/
def message : Fault → Text
  | incident i => i.message
  | exhausted => "coroutine raised StopIteration"
  | unencodable run => run.message
  | address path => Incident.addressMessage path
  | options problem => problem.message
  | openFailed path cause =>
      "Failed to open connection for " ++ path.display ++ ": " ++ cause.message
  | closed path => "Connection for " ++ path.display ++ " is closed."
  | statement _ cause => cause.kind ++ ": " ++ cause.message
  | binding problem => problem.message
  | rowWidth values columns =>
      "Row has " ++ Numeral.natural values ++ " values but the statement reported " ++
        Numeral.natural columns ++ " columns"
  | negativeCount count =>
      "Engine reported a negative row count: " ++ count.display
  | noBackend => "Transaction requires an existing connector instance."
  | alreadyStarted phase =>
      "Transaction already started (state: " ++ phase.name ++ ")."
  | notStarted phase => "Transaction is not open (state: " ++ phase.name ++ ")."
  | control c cause =>
      "Failed to " ++ c.deed ++ " transaction: " ++ cause.message
  | tableMissing => "A query needs a table name."
  | assignmentsMissing kind => kind ++ " needs at least one column value."
  | unrenderable typeName => "Cannot render query of type " ++ typeName
  | journalMode mode => "Invalid mode: " ++ mode.display
  | journalFormat format => "Invalid filetype: " ++ format.display
  | journalFormatUnknown => "Cannot autodetect filetype from path."
  | bufferLength => "buffer_length must be a positive integer"
  | digitLimit =>
      "Exceeds the limit (4300 digits) for integer string conversion; use " ++
        "sys.set_int_max_str_digits() to increase the limit"
  | isDirectory path => "[Errno 21] Is a directory: " ++ path.print
  | notDirectory path => "[Errno 20] Not a directory: " ++ path.print
  | fileMissing path => "[Errno 2] No such file or directory: " ++ path.print
  | fileExists path => "[Errno 17] File exists: " ++ path.print
  | directoryNotEmpty path => "[Errno 39] Directory not empty: " ++ path.print
  | nameTooLong path => "[Errno 36] File name too long: " ++ path.print
  | nullInName => "embedded null byte"
  | indexOutOfRange => "tuple index out of range"
  | keyMissing key => key.print
  | memberMissing typeName member =>
      "'" ++ typeName ++ "' object has no attribute '" ++ member ++ "'"
  | misfit problem => problem.message
  | signalingKey => "Cannot hash a signaling NaN value"
  | undefinedComparison => "[<class 'decimal.InvalidOperation'>]"
  | placesOfText => "Unknown format code 'f' for object of type 'str'"
  | numberTooLarge => "int too large to convert to float"
  | lengthTooLarge => "the range is longer than any length"
  | outOfMemory => []
  | tooManyPlaces => "the decimal has too many digits for decimal places"
  | nestedTooDeep => "maximum recursion depth exceeded"
  | jsonMalformed => "The line is no JSON document"
  | csvFieldTooLong => "Field of more than 131072 characters"
  | csvStrayLineEnd => "Line end inside a line"

/-- The fault that led to this one. -/
def cause? : Fault → Option Fault
  | openFailed _ cause => some cause
  | statement _ cause => some cause
  | control _ cause => some cause
  | binding (.unencodable run) => some (unencodable run)
  | _ => none

/-- Whether the engine is to blame: it reported a failure, or it was handed a text
that has no encoding. -/
def isEngineFailure : Fault → Bool
  | incident i => Incident.engineKinds.contains i.kind || i.kind = Incident.unencodableKind
  | unencodable _ => true
  | _ => false

/-- Whether a fault is of one of this library's own kinds. -/
def isOwn (f : Fault) : Bool := Incident.ownKinds.contains f.kind

/-- Whether a fault asks the program to stop; such a fault is neither measured nor
wrapped. -/
def isInterrupt : Fault → Bool
  | incident i => Incident.interruptKinds.contains i.kind
  | _ => false

/-- Whether a fault is about the state of a transaction. -/
def isTransactionFault (f : Fault) : Bool := f.kind = ("TransactionError" : Text)

/-- A fault as logs describe it. -/
def description : Fault → Text
  | incident i => i.description
  | f => f.kind ++ "(" ++ f.message.quoted ++ ")"

/-- The wording of a fault, if it has one: an incident may have come with a number that
is too long to be written. -/
def words : Fault → Except Fault Text
  | incident i => if i.wordable then .ok i.message else .error digitLimit
  | f => .ok f.message

/-- The description of a fault, if it has one. -/
def described : Fault → Except Fault Text
  | incident i =>
      if i.argument.printable then .ok i.description else .error digitLimit
  | f => .ok f.description

/-- A step that gave something was followed by one that did. -/
theorem exists_of_bind_eq_ok
    {α β : Type} {x : Except Fault α} {f : α → Except Fault β} {b : β}
    (h : (x >>= f) = .ok b) :
    ∃ a, x = .ok a ∧ f a = .ok b := by
  cases x with
  | error g =>
      cases h
  | ok a =>
      exact ⟨a, rfl, h⟩

end Fault
end Datalink
