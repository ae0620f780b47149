import TypeAtlas.Text.Quoted

/-!
What can be wrong with a pattern, and where.
-/

namespace TypeAtlas

inductive PatternFault
  | danglingEscape
  | badEscape (escape : Text)
  | incompleteEscape (escape : Text)
  | octalTooLarge (escape : Text)
  | unknownCharacterName (name : Text)
  | missing (what : Text)
  | unterminatedName (terminator : Char)
  | badGroupName (name : Text)
  | unknownGroup (name : Text)
  | groupRedefined (name : Text) (index earlier : Nat)
  | openGroup
  | groupInLookbehind
  | invalidReference (index : Nat)
  | badGroupNumber
  | manyBranches
  | unterminatedSet
  | badRange (first last : Text)
  | repeatBounds
  | nothingToRepeat
  | multipleRepeat
  | unexpectedEnd
  | unterminatedGroup
  | unterminatedComment
  | unknownExtension (extension : Text)
  | unknownFlag
  | localeFlag
  | typeFlags
  | typeFlagsOff
  | globalFlags
  | globalFlagOn
  | globalFlagOff
  | contradictoryFlag
  | unbalanced
  | variableLookbehind
  | farLookbehind
  | characterSets
  | repetitionTooLarge
  /-- a number of more digits than are read -/
  | longNumber (digits : Nat)
  deriving DecidableEq, Repr

namespace PatternFault

def message : PatternFault → Text
  | danglingEscape => "bad escape (end of pattern)"
  | badEscape escape => "bad escape " ++ escape
  | incompleteEscape escape => "incomplete escape " ++ escape
  | octalTooLarge escape => "octal escape value " ++ escape ++ " outside of range 0-0o377"
  | unknownCharacterName name => "undefined character name " ++ name.quoted
  | missing what => "missing " ++ what
  | unterminatedName terminator => "missing " ++ [terminator] ++ ", unterminated name"
  | badGroupName name => "bad character in group name " ++ name.quoted
  | unknownGroup name => "unknown group name " ++ name.quoted
  | groupRedefined name index earlier => "redefinition of group name " ++ name.quoted ++
      " as group " ++ Text.ofNat index ++ "; was group " ++ Text.ofNat earlier
  | openGroup => "cannot refer to an open group"
  | groupInLookbehind => "cannot refer to group defined in the same lookbehind subpattern"
  | invalidReference index => "invalid group reference " ++ Text.ofNat index
  | badGroupNumber => "bad group number"
  | manyBranches => "conditional backref with more than two branches"
  | unterminatedSet => "unterminated character set"
  | badRange first last => "bad character range " ++ first ++ "-" ++ last
  | repeatBounds => "min repeat greater than max repeat"
  | nothingToRepeat => "nothing to repeat"
  | multipleRepeat => "multiple repeat"
  | unexpectedEnd => "unexpected end of pattern"
  | unterminatedGroup => "missing ), unterminated subpattern"
  | unterminatedComment => "missing ), unterminated comment"
  | unknownExtension extension => "unknown extension ?" ++ extension
  | unknownFlag => "unknown flag"
  | localeFlag => "bad inline flags: cannot use 'L' flag with a str pattern"
  | typeFlags => "bad inline flags: flags 'a', 'u' and 'L' are incompatible"
  | typeFlagsOff => "bad inline flags: cannot turn off flags 'a', 'u' and 'L'"
  | globalFlags => "global flags not at the start of the expression"
  | globalFlagOn => "bad inline flags: cannot turn on global flag"
  | globalFlagOff => "bad inline flags: cannot turn off global flag"
  | contradictoryFlag => "bad inline flags: flag turned on and off"
  | unbalanced => "unbalanced parenthesis"
  | variableLookbehind => "look-behind requires fixed-width pattern"
  | farLookbehind => "looks too much behind"
  | characterSets => "ASCII and UNICODE flags are incompatible"
  | repetitionTooLarge => "the repetition number is too large"
  | longNumber digits => "Exceeds the limit (4300 digits) for integer string conversion: value has " ++
      Text.ofNat digits ++ " digits; use sys.set_int_max_str_digits() to increase the limit"

end PatternFault

structure PatternError where
  fault : PatternFault
  /-- none where the fault lies in the pattern as a whole -/
  position : Option Nat
  deriving DecidableEq, Repr

namespace PatternError

/-- The message; in a pattern of several lines it also gives line and column. -/
def message (pattern : Text) (e : PatternError) : Text :=
  match e.position with
  | none => e.fault.message
  | some at_ =>
    let before := pattern.take at_
    e.fault.message ++ " at position " ++ Text.ofNat at_ ++
      Text.onlyIf (pattern.contains '\n')
        (" (line " ++ Text.ofNat (before.count '\n' + 1) ++ ", column " ++
          Text.ofNat ((before.reverse.takeWhile (· ≠ '\n')).length + 1) ++ ")")

end PatternError

end TypeAtlas
