-- SUMMARY: The causes for which an operation fails outright, with their category and their message.

/-!
# Faults

A fault is a failure of one operation on one value: a value that no encoder takes, a
number out of range, a text that is no numeral. Its category decides what becomes of it:
a validator turns a `value` fault into an issue of the field, and every other fault ends
the construction. Validation issues themselves are in `SceneSource.Issue`.
-/

namespace SceneSource

/-- What kind of failure a fault is. -/
inductive Category where
  | value
  | type
  | overflow
  | attribute
  | frozen
  | unicode
  | serialization
deriving DecidableEq, Repr

/-- The name under which a category is reported. -/
def Category.name : Category → String
  | .value => "ValueError"
  | .type => "TypeError"
  | .overflow => "OverflowError"
  | .attribute => "AttributeError"
  | .frozen => "FrozenInstanceError"
  | .unicode => "UnicodeDecodeError"
  | .serialization => "PydanticSerializationError"

/-- The cause of a failure. Arguments named `type` hold the name of the type of the
    offending value, arguments named `shown` hold the value as messages show it. -/
inductive Fault where
  /-- NaN where an integer is needed. -/
  | nanToInteger
  /-- An infinity where an integer is needed. -/
  | infinityToInteger
  /-- A text that is no numeral. -/
  | numeral (shown : String)
  /-- An integer with too many digits to be written. -/
  | digitLimit
  /-- A numeral with too many digits. -/
  | numeralDigits (digits : Nat)
  /-- A value that has no integer reading. -/
  | notNumeric (type : String)
  /-- An integer beyond the range of doubles. -/
  | realRange
  /-- A value that cannot be added to a sum of numbers. -/
  | addend (type : String)
  /-- A value without elements where a collection is needed. -/
  | notIterable (type : String)
  /-- A value without elements where a color is needed. -/
  | notUnpackable (type : String)
  /-- A collection of fewer than four elements where a color is needed. -/
  | tooFew (count : Nat)
  /-- A collection of more than four elements where a color is needed. -/
  | tooMany
  /-- A color channel without bits. -/
  | channelType (type : String)
  | colorShape
  | colorChannelMissing (channel : String)
  | colorChannels (shown : String)
  | colorRange
  | durationShape
  /-- A duration whose days do not fit a machine integer. -/
  | durationWord
  /-- A duration of too many days. -/
  | durationDays (days : Int)
  | flagsShape
  | flagUnknown (shown : String)
  | pathShape
  | notPath (type : String)
  /-- An object that stands for a path and answers with a value of this type. -/
  | pathResult (type : String)
  /-- An object that stands for a path and answers with bytes. -/
  | pathBytes
  /-- A text that is no bounding size. -/
  | sizeUnknown (shown : String)
  /-- A value that is no bounding size, given to a field. -/
  | sizeExpected (shown : String)
  /-- A value that is no bounding size, given to the formatter. -/
  | sizeRequired (shown : String)
  /-- Bytes given to the reader of bounding sizes. -/
  | sizeBytes
  | cropRequired (type : String)
  /-- A text that is no JSON document. -/
  | json (reason : String) (line column : Nat)
  | noAttribute (type name : String)
  /-- A change to an entry of a color. -/
  | frozenEntry
  /-- A change to a field of a bounding size. -/
  | frozenField (name : String)
  /-- A change to what all values of a type share. -/
  | readOnly (type name : String)
  /-- A change of the type of a value. -/
  | newType (type : String)
  /-- A change of all attributes of an instance at once. -/
  | newAttributes (type : String)
  /-- A change to what belongs to the model and not to an instance. -/
  | modelAttribute (model name : String)
  | unhashable (type : String)
  | notMapping (type : String)
  /-- The kind given a second time, as an override. -/
  | repeatedKind
  /-- Types of which no values are ordered, with the sign of the comparison. -/
  | unordered (sign left right : String)
  /-- Bytes that are no UTF-8, in a document: the first of them, its place and the place
      behind the last one. -/
  | undecodable (byte : UInt8) (start stop : Nat)
  /-- Bytes that are no UTF-8, in JSON text. -/
  | undecodableText (validUpTo : Nat) (length? : Option Nat)
  /-- A value that no document can hold. -/
  | unserializable (type : String)
  /-- A value nested too deeply to be written. -/
  | tooDeep
  /-- An encoder of a field that failed. -/
  | encoder (name : String) (cause : Fault)
  /-- An encoder of a field that failed within JSON text. -/
  | inText (cause : Fault)
deriving DecidableEq, Repr

namespace Fault

/-- The category of a fault. -/
def category : Fault → Category
  | nanToInteger | numeral _ | digitLimit | numeralDigits _ | tooFew _ | tooMany => .value
  | colorShape | colorChannelMissing _ | colorChannels _ | colorRange | durationShape => .value
  | flagsShape | flagUnknown _ | pathShape | sizeUnknown _ | sizeExpected _ | json .. => .value
  | tooDeep => .value
  | infinityToInteger | realRange | durationWord | durationDays _ => .overflow
  | notNumeric _ | addend _ | notIterable _ | notUnpackable _ | channelType _ => .type
  | notPath _ | pathResult _ | pathBytes | sizeRequired _ | sizeBytes | cropRequired _ => .type
  | unhashable _ | notMapping _ | repeatedKind | unordered .. => .type
  | newType _ | newAttributes _ => .type
  | noAttribute .. | frozenEntry | readOnly .. | modelAttribute .. => .attribute
  | frozenField _ => .frozen
  | undecodable .. => .unicode
  | undecodableText .. | unserializable _ | encoder .. | inText _ => .serialization

/-- The message of a fault. -/
def message : Fault → String
  | nanToInteger => "cannot convert float NaN to integer"
  | infinityToInteger => "cannot convert float infinity to integer"
  | numeral shown => s!"invalid literal for int() with base 10: {shown}"
  | digitLimit => "Exceeds the limit (4300 digits) for integer string conversion; " ++
      "use sys.set_int_max_str_digits() to increase the limit"
  | numeralDigits digits => "Exceeds the limit (4300 digits) for integer string conversion: " ++
      s!"value has {digits} digits; use sys.set_int_max_str_digits() to increase the limit"
  | notNumeric type =>
      s!"int() argument must be a string, a bytes-like object or a real number, not '{type}'"
  | realRange => "int too large to convert to float"
  | addend type => s!"unsupported operand type(s) for +=: 'float' and '{type}'"
  | notIterable type => s!"'{type}' object is not iterable"
  | notUnpackable type => s!"cannot unpack non-iterable {type} object"
  | tooFew count => s!"not enough values to unpack (expected 4, got {count})"
  | tooMany => "too many values to unpack (expected 4)"
  | channelType type => s!"unsupported operand type(s) for &: '{type}' and 'int'"
  | colorShape => "color must be an Rgba8, a 4-tuple or a packed int"
  | colorChannelMissing channel => s!"color mapping is missing channel '{channel}'"
  | colorChannels shown => s!"color channels must be integers: {shown}"
  | colorRange => "color channels must be within 0-255"
  | durationShape => "duration must be a timedelta or a number of milliseconds"
  | durationWord => "Python int too large to convert to C int"
  | durationDays days => s!"days={days}; must have magnitude <= 999999999"
  | flagsShape => "font flags must be FontFlags, an int or an iterable"
  | flagUnknown shown => s!"unknown font flag {shown}"
  | pathShape => "expected a path or a string"
  | notPath type => s!"expected str, bytes or os.PathLike object, not {type}"
  | pathResult type => s!"expected PathLike.__fspath__() to return str or bytes, not {type}"
  | pathBytes => "argument should be a str object or an os.PathLike object returning str, " ++
      "not <class 'bytes'>"
  | sizeUnknown shown => s!"unrecognized custom size {shown}"
  | sizeExpected shown | sizeRequired shown => s!"not a custom size: {shown}"
  | sizeBytes => "cannot use a string pattern on a bytes-like object"
  | cropRequired type => s!"unsupported crop mode: {type}"
  | json reason line column => s!"{reason} at line {line} column {column}"
  | noAttribute type name => s!"'{type}' object has no attribute '{name}'"
  | frozenEntry => "can't set attribute"
  | readOnly type name => s!"'{type}' object attribute '{name}' is read-only"
  | newType type => s!"__class__ must be set to a class, not '{type}' object"
  | newAttributes type => s!"__dict__ must be set to a dictionary, not a '{type}'"
  | frozenField name => s!"cannot assign to field '{name}'"
  | modelAttribute model name =>
      s!"'{name}' is a ClassVar of `{model}` and cannot be set on an instance. " ++
        s!"If you want to set a value on the class, use `{model}.{name} = value`."
  | unhashable type => s!"unhashable type: '{type}'"
  | notMapping type =>
      "obs_settings.catalog.build_source_settings() argument after ** must be a mapping, " ++
        s!"not {type}"
  | repeatedKind => "build_source_settings() got multiple values for argument 'source_kind'"
  | unordered sign left right =>
      s!"'{sign}' not supported between instances of '{left}' and '{right}'"
  | undecodable byte start stop =>
      "'utf-8' codec can't decode " ++
        (if stop = start + 1 then s!"byte 0x{byteText byte} in position {start}"
         else s!"bytes in position {start}-{stop - 1}") ++ ": invalid utf-8"
  | undecodableText validUpTo (some length) => "Error serializing to JSON: " ++
      s!"invalid utf-8 sequence of {length} bytes from index {validUpTo}"
  | undecodableText validUpTo none => "Error serializing to JSON: " ++
      s!"incomplete utf-8 byte sequence from index {validUpTo}"
  | unserializable type => s!"Unable to serialize unknown type: <class '{type}'>"
  | tooDeep => "Maximum serialization depth exceeded"
  | encoder name cause =>
      s!"Error calling function `{name}`: " ++ cause.category.name ++ ": " ++ cause.message
  | inText cause =>
      "Error serializing to JSON: " ++ cause.category.name ++ ": " ++ cause.message
where
  byteText (b : UInt8) : String :=
    let digits := Nat.toDigits 16 b.toNat
    String.ofList (List.replicate (2 - digits.length) '0' ++ digits)

end Fault

end SceneSource
