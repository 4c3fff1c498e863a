import LayeredConfig.Script.Utility.Operand

/-!
# Utilities for names and numbers

Utilities that take paths apart and count.
-/

namespace LayeredConfig.Script.Utility

/-- A path without the slashes at its end. -/
def withoutSlashes (path : Octets) : Octets :=
  match (path.reverse.dropWhile (· == '/')).reverse with
  | [] => if path.isEmpty then [] else ['/']
  | path => path

/-- The last name of a path, without an ending. -/
def baseOf (path ending : Octets) : Octets :=
  let path := withoutSlashes path
  let name := if path = ['/'] then path else (path.reverse.takeWhile (· != '/')).reverse
  if ending.isSuffixOf name && name != ending then name.take (name.length - ending.length) else name

/-- The path of the directory that a path lies in. -/
def directoryOf (path : Octets) : Octets :=
  let path := withoutSlashes path
  if !path.contains '/' then ['.']
  else withoutSlashes (path.reverse.dropWhile (· != '/')).reverse

/-- Write the last names of paths. -/
def basename (s : Shell) (arguments : List String) : Shell :=
  let o := Operands.read "s" arguments
  let s := s.withStatus 0
  if o.has 'a' || o.has 's' then
    o.names.foldl
      (fun s name => s.write 1 (baseOf name.toList ((o.value? 's').getD "").toList ++ ['\n'])) s
  else
    match o.names with
    | [] => s.complain 1 "basename: missing operand"
    | [name] => s.write 1 (baseOf name.toList [] ++ ['\n'])
    | name :: ending :: _ => s.write 1 (baseOf name.toList ending.toList ++ ['\n'])

/-- Write the directories that paths lie in. -/
def dirname (s : Shell) (arguments : List String) : Shell :=
  let o := Operands.read "" arguments
  if o.names.isEmpty then s.complain 1 "dirname: missing operand"
  else
    o.names.foldl (fun s name => s.write 1 (directoryOf name.toList ++ ['\n'])) (s.withStatus 0)

/-- The numbers from one to another, by steps. -/
def countFrom (first step last : Int) : List Int :=
  if step = 0 then []
  else
    let count := if 0 < step then (last - first) / step else (first - last) / (-step)
    if count < 0 then [] else (List.range (count.toNat + 1)).map fun (i : Nat) => first + step * (i : Int)

/-- Write numbers in order. -/
def seq (s : Shell) (arguments : List String) : Shell :=
  let (separator, arguments) :=
    match arguments.map String.toList, arguments with
    | ['-', 's'] :: separator :: _, _ :: _ :: rest => (separator, rest)
    | ('-' :: 's' :: separator) :: _, _ :: rest => (separator, rest)
    | _, arguments => (['\n'], arguments)
  let (wide, arguments) :=
    match arguments with
    | "-w" :: rest => (true, rest)
    | arguments => (false, arguments)
  let show_ (numbers : List Int) : Shell :=
    let texts := numbers.map Number.intText
    let width := if wide then (texts.map List.length).foldl max 0 else 0
    let texts := texts.map fun text => List.replicate (width - text.length) '0' ++ text
    let s := s.withStatus 0
    if texts.isEmpty then s else s.write 1 (separator.intercalate texts ++ ['\n'])
  match arguments.map fun argument => Number.readSigned? 10 argument.toList with
  | [some last] => show_ (countFrom 1 1 last)
  | [some first, some last] => show_ (countFrom first 1 last)
  | [some first, some step, some last] => show_ (countFrom first step last)
  | [] => s.complain 1 "seq: missing operand"
  | _ => s.complain 1 "seq: invalid floating point argument"

end LayeredConfig.Script.Utility
