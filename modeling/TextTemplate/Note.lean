import TextTemplate.Failure

/-!
# Notes

The remarks that a run leaves for whoever traces it, in the order in which they arise.
-/

namespace TextTemplate

/-- A remark on the progress of a run. -/
inductive Note where
  | unmatchedClose (line : Nat)
  | unclosedCommand (line : Nat)
  | unexpectedClose (line : Nat)
  | tokenized (tokens lines : Nat)
  | unterminated (construct : Construct) (text : Text) (line : Nat)
  | notIterable (target : Text) (line : Nat)
  | looping (name target : Text) (elements : Nat)
  | noValue (path : Text)
  | markersUpdated (names : List String)
  | noOverrideFile (path : Text)
  | overridesLoaded (count : Nat) (path : Text)
  | renderFailed (message : Text)
  deriving DecidableEq, Repr

def Note.message : Note → Text
  | unmatchedClose line => s!"Unmatched closing token on line {line}"
  | unclosedCommand line => s!"Unclosed command on line {line}"
  | unexpectedClose line => s!"Unexpected closing token on line {line}"
  | tokenized tokens lines => s!"Tokenized template into {tokens} tokens over {lines} line(s)"
  | unterminated construct text line => (Failure.unterminated construct text line).message
  | notIterable target line =>
    "Loop target " ++ target ++ " on line " ++ toString line ++ " is not iterable"
  | looping name target elements =>
    "Loop " ++ name ++ " over " ++ target ++ ": " ++ toString elements ++ " element(s)"
  | noValue path => "No value for " ++ path ++ "; substituting empty string"
  | markersUpdated names => "Markers updated: " ++ ", ".intercalate names
  | noOverrideFile path => "No token file at " ++ path ++ "; using default markers"
  | overridesLoaded count path => "Loaded " ++ toString count ++ " token override(s) from " ++ path
  | renderFailed message => "Render failed: " ++ message

/-- The note that goes with a failure by itself, if there is one. -/
def Note.ofFailure? : Failure → Option Note
  | .unmatchedClose line => some (.unmatchedClose line)
  | .unclosedCommand line .. => some (.unclosedCommand line)
  | .unexpectedClose line _ => some (.unexpectedClose line)
  | .unterminated construct text line => some (.unterminated construct text line)
  | _ => none

end TextTemplate
