import Mathlib.Init

/-! The exceptions a table method raises, each kept as the arguments its constructor received. -/

namespace Liblpm

/-- An exception raised out of a table method, as the constructor call that built it. -/
inductive PyException where
  | valueError (message : String)
  /-- The `AddressValueError` of `IPv4Address(text)`, which `lookup` lets escape. -/
  | addressValueError (message : String)
  /-- The `OverflowError` of storing a value an `array.array('I')` slot cannot hold. -/
  | overflowError (message : String)
  /-- The `AttributeError` of reading a slot that was never assigned. -/
  | attributeError (name : String)
  /-- Whatever the engine's constructor raises. -/
  | extensionError (message : String)
  | lpmInsertError (message : String) (prefixText : Option String) (nextHop : Option Int)
  | lpmDeleteError (message : String) (prefixText : Option String)
  | lpmClosedError (message : String)
  | lpmInvalidPrefixError (message : String) (prefixText : Option String) (reason : Option String)
  deriving DecidableEq, Repr

/-- The class of an exception, `type(e)`: `AddressValueError` subclasses `ValueError` and the
four `Lpm*` classes subclass `LpmError`; `ExtensionError` stands for what `_liblpm` raises. -/
inductive ExceptionClass where
  | ValueError
  | AddressValueError
  | OverflowError
  | AttributeError
  | ExtensionError
  | LpmInsertError
  | LpmDeleteError
  | LpmClosedError
  | LpmInvalidPrefixError
  deriving DecidableEq, Repr

/-- The class each exception was raised as. -/
def PyException.exceptionClass : PyException → ExceptionClass
  | .valueError _ => .ValueError
  | .addressValueError _ => .AddressValueError
  | .overflowError _ => .OverflowError
  | .attributeError _ => .AttributeError
  | .extensionError _ => .ExtensionError
  | .lpmInsertError _ _ _ => .LpmInsertError
  | .lpmDeleteError _ _ => .LpmDeleteError
  | .lpmClosedError _ => .LpmClosedError
  | .lpmInvalidPrefixError _ _ _ => .LpmInvalidPrefixError

/-- The step `if field is not None: message = f"{message}..."` each `__init__` repeats. -/
def appendIfGiven (message : String) : Option String → String
  | some text => message ++ text
  | none => message

/-- `str(e)`: for the `exceptions.py` classes the `message` their `__init__` composes and stores;
for an `AttributeError` the slot's name stands for the interpreter's text. -/
def PyException.message : PyException → String
  | .valueError message => message
  | .addressValueError message => message
  | .overflowError message => message
  | .attributeError name => name
  | .extensionError message => message
  | .lpmInsertError message prefixText nextHop =>
      appendIfGiven (appendIfGiven message (prefixText.map fun text => s!": {text}"))
        (nextHop.map fun value => s!" -> {value}")
  | .lpmDeleteError message prefixText => appendIfGiven message (prefixText.map fun text => s!": {text}")
  | .lpmClosedError message => message
  | .lpmInvalidPrefixError message prefixText reason =>
      appendIfGiven (appendIfGiven message (prefixText.map fun text => s!": {text}"))
        (reason.map fun text => s!" ({text})")

end Liblpm
