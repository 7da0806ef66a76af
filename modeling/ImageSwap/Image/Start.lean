import ImageSwap.Errno
import ImageSwap.Exec.Loader
import ImageSwap.Shell.Interpreter

/-!
# Starting images

What the utilities of the system do when they are started with an argument vector.
-/

namespace ImageSwap.Image

/-- The bytes of a fixed text. -/
private def ascii (s : String) : Bytes := Bytes.ofString s

/-- Prints the working directory. -/
private def printDirectory (s : Setting) (name : Bytes) (args : List Bytes) : Completion where
  stdout := s.workingDirectory ++ ascii "\n"
  stderr := if args = [] then [] else name ++ ascii ": ignoring non-option arguments\n"

/-- Whether an argument of `echo` is an option. -/
private def isEchoOption (arg : Bytes) : Bool :=
  match Bytes.toOctets arg with
  | '-' :: c :: rest => (c :: rest).all fun c => c == 'n' || c == 'e' || c == 'E'
  | _ => false

/-- Prints its arguments with blanks between; escapes are interpreted on request only. -/
private def echo (args : List Bytes) : Completion :=
  let options := (args.takeWhile isEchoOption).flatMap Bytes.toOctets
  let args := args.dropWhile isEchoOption
  let text := [' '].intercalate (args.map Bytes.toOctets)
  let interpreted := (options.filter fun c => c == 'e' || c == 'E').getLast? == some 'e'
  let (text, stopped) := if interpreted then Shell.unescapeEcho text else (text, false)
  let text := if options.contains 'n' || stopped then text else text ++ ['\n']
  { stdout := Bytes.ofOctets text }

/-- What `printf` says about an argument that is no number. -/
private def numberComplaint (name : Bytes) (arg : List Char) (fault : Shell.NumberFault) : Bytes :=
  let reason := match fault with
    | .noNumber => "expected a numeric value"
    | .trailing => "value not completely converted"
    | .outOfRange => "Numerical result out of range"
  name ++ ascii ": '" ++ Bytes.ofOctets arg ++ ascii s!"': {reason}\n"

/-- Prints its arguments as a format says. -/
private def printf (name : Bytes) (args : List Bytes) : Completion :=
  match if args.head? = some (ascii "--") then args.drop 1 else args with
  | [] => {
      ending := .exit 1
      stderr := name ++ ascii ": missing operand\nTry '" ++ name ++
        ascii " --help' for more information.\n" }
  | format :: args =>
    let printed := Shell.printf true (Bytes.toOctets format) (args.map Bytes.toOctets)
    let excess := match printed.unused with
      | [] => []
      | arg :: _ =>
        name ++ ascii ": warning: ignoring excess arguments, starting with '" ++
          Bytes.ofOctets arg ++ ascii "'\n"
    { ending := .exit (if printed.faults = [] then 0 else 1)
      stdout := Bytes.ofOctets printed.text
      stderr := printed.faults.flatMap (fun (arg, fault) => numberComplaint name arg fault) ++
        excess }

/-- Prints one file after what was printed before, or complains. -/
private def concatenateOne (s : Setting) (name : Bytes) (done : Completion) (file : Bytes) :
    Completion :=
  let complain (errno : Errno) : Completion :=
    { done with
      ending := .exit 1
      stderr := done.stderr ++ name ++ ascii ": " ++ file ++ ascii s!": {errno.systemText}\n" }
  if file = ascii "-" then { done with stdout := done.stdout ++ s.stdin }
  else match s.fs.lookup file with
    | .error errno => complain errno
    | .ok (_, .directory) => complain .eisdir
    | .ok (_, .file _ (.data bytes)) => { done with stdout := done.stdout ++ bytes }
    | .ok _ => done

/-- Prints files in order, or standard input when none is given. -/
private def concatenate (s : Setting) (name : Bytes) (files : List Bytes) : Completion :=
  (if files = [] then [ascii "-"] else files).foldl (concatenateOne s name) {}

/-- The letters of the options of the shell, and the arguments after them. -/
private def shellOptions : List Bytes → List Char × List Bytes
  | [] => ([], [])
  | arg :: args =>
    match Bytes.toOctets arg with
    | '-' :: '-' :: [] => ([], args)
    | '-' :: c :: rest =>
      let (letters, args) := shellOptions args
      (c :: rest ++ letters, args)
    | _ => ([], arg :: args)

/-- Runs a script from a file, from an argument, or from standard input. Anything in the place of
a file that is no file reads as an empty script. -/
private def shell (s : Setting) (name : Bytes) (args : List Bytes) : Completion :=
  let refuse (text : String) : Completion :=
    { ending := .exit 2, stderr := name ++ ascii ": 0: " ++ ascii text ++ ascii "\n" }
  let (letters, args) := shellOptions args
  let run := Shell.interpret s (letters.contains 'e')
  match letters.find? fun c => !"abcefimnsuvxCEIV".toList.contains c with
  | some letter => refuse s!"Illegal option -{letter}"
  | none =>
    match letters.contains 'c', args with
    | true, [] => refuse "-c requires an argument"
    | true, [script] => run name [] script
    | true, script :: zero :: args => run zero args script
    | false, [] => Shell.interpret { s with stdin := [] } (letters.contains 'e') name [] s.stdin
    | false, file :: args =>
      match s.fs.lookup file with
      | .ok (_, .file _ (.data script)) => run file args script
      | .ok _ => {}
      | .error _ => refuse s!"cannot open {file.lossy}: No such file"

/-- What an image has done by the time it ends. -/
def start (s : Setting) (image : Image) : Completion :=
  let name := image.argv.headD []
  let args := image.argv.tail
  match image.program with
  | .shell => shell s name args
  | .printDirectory => printDirectory s name args
  | .echo => echo args
  | .printf => printf name args
  | .succeed => {}
  | .fail => { ending := .exit 1 }
  | .concatenate => concatenate s name args

end ImageSwap.Image
