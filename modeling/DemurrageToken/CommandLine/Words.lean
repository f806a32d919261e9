import DemurrageToken.CommandLine.Usage
import DemurrageToken.Url.Basic
/-!
The words of a command line, divided into options with their values and other words.
-/
namespace DemurrageToken.CommandLine

/-- The options given, in order and each with its value, and the words that are no options. -/
structure Words where
  given : List (OptionName × Text)
  others : List Text

namespace Words

def withOption (option : OptionName) (value : Text) (w : Words) : Words :=
  { w with given := (option, value) :: w.given }

def withOptions (options : List OptionName) (w : Words) : Words :=
  { w with given := options.map (·, []) ++ w.given }

def withOther (word : Text) (w : Words) : Words := { w with others := word :: w.others }

/-- Whether a word is an option or a cluster of letters. A single dash is neither. -/
def isOption (word : Text) : Bool := word.head? = some (.scalar '-') && 1 < word.length

/-- The options of the letters in a cluster. -/
def letters (options : List OptionName) (cluster : Text) : Except Misuse (List OptionName) :=
  cluster.mapM fun letter =>
    match options.find? fun o => o.short?.map CodePoint.scalar = some letter with
    | some option => .ok option
    | none => .error (.unknownLetter letter)

/-- Divide words by the options that may be among them. `--` ends the options, and so does the
first other word unless words and options may mix. An option that takes a value takes what follows
`=` in its word, or else the next word, whatever that looks like. -/
def divide (options : List OptionName) (mixed : Bool) : List Text → Except Misuse Words
  | [] => .ok ⟨[], []⟩
  | word :: rest =>
    if word = Text.ofString "--" then .ok ⟨[], rest⟩
    else if isOption word then
      let (name, value?) := Url.splitAtFirst '=' word
      match options.find? (·.long = name) with
      | some option =>
        if option.takesValue then
          match value? with
          | some value => (divide options mixed rest).map (withOption option value)
          | none =>
            match rest with
            | value :: more => (divide options mixed more).map (withOption option value)
            | [] => .error (.valueMissing option)
        else if value?.isSome then .error (.valueUnwanted option)
        else (divide options mixed rest).map (withOption option [])
      | none =>
        if Text.startsWith "--" word then .error (.unknownOption name)
        else
          match letters options (word.drop 1) with
          | .error misuse => .error misuse
          | .ok given => (divide options mixed rest).map (withOptions given)
    else if mixed then (divide options mixed rest).map (withOther word)
    else .ok ⟨[], word :: rest⟩

/-- The option that acts before anything else is checked, if one is given. -/
def eager? (w : Words) : Option OptionName := (w.given.find? (·.1.isEager)).map Prod.fst

/-- The value of an option, the last one if it is repeated. -/
def value? (w : Words) (option : OptionName) : Option Text :=
  (w.given.reverse.find? (·.1 = option)).map Prod.snd

def has (w : Words) (option : OptionName) : Bool := (w.value? option).isSome

end Words

end DemurrageToken.CommandLine
