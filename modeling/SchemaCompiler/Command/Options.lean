/-!
# Command lines

What a run is asked to do: the files to compile, the file with settings, directories that take the
place of configured ones, and a few switches. Options have long names, some have letters too; their
values follow as the next argument, after an equals sign, or after the letter itself. Two dashes end
the options. No option may be given twice, and no path may be empty.
-/

namespace SchemaCompiler.Command

/-- How a run is reported. -/
inductive Format where
  /-- As lines of text. -/
  | text
  /-- As one JSON value. -/
  | json
deriving DecidableEq, Repr

/-- What a run is asked to do. -/
structure Options where
  /-- The files to compile; those of the input directory if there are none. -/
  files : List String := []
  /-- A file with settings. -/
  config : Option String := none
  /-- A directory for input. -/
  inputDir : Option String := none
  /-- A directory for record types and message glue. -/
  recordOut : Option String := none
  /-- A directory for storage descriptors. -/
  storageOut : Option String := none
  /-- A directory for table definitions. -/
  ddlOut : Option String := none
  /-- A directory for message definitions. -/
  protoOut : Option String := none
  /-- A directory for marshalling procedures. -/
  marshalOut : Option String := none
  /-- Whether the strict policy is asked for. -/
  strict : Bool := false
  /-- Whether files are compared and not written. -/
  check : Bool := false
  /-- How the run is reported. -/
  format : Option Format := none
deriving Repr

/-- An option. -/
inductive Flag where
  | config
  | inputDir
  | recordOut
  | storageOut
  | ddlOut
  | protoOut
  | marshalOut
  | strict
  | check
  | format
deriving DecidableEq, Repr

namespace Flag

/-- The option with a long name. -/
def ofName? (name : String) : Option Flag :=
  [("config", config), ("input-dir", inputDir), ("record-out", recordOut),
   ("storage-out", storageOut), ("ddl-out", ddlOut), ("proto-out", protoOut),
   ("marshal-out", marshalOut), ("strict", strict), ("check", check),
   ("format", format)].lookup name

/-- The option with a letter. -/
def ofLetter? (letter : Char) : Option Flag :=
  [('c', config), ('i', inputDir), ('f', format)].lookup letter

/-- Whether an option has a value. -/
def takesValue : Flag → Bool
  | strict | check => false
  | _ => true

end Flag

/-- The format with a name. -/
def Format.ofName? (name : String) : Option Format :=
  [("text", Format.text), ("json", Format.json)].lookup name

namespace Options

/-- Sets a path that is not set yet; an empty path is no good. -/
def once (current : Option String) (value : String) : Option (Option String) :=
  if current.isSome || value.isEmpty then none else some (some value)

/-- Takes in an option with its value. -/
def setValue (o : Options) (value : String) : Flag → Option Options
  | .config => (once o.config value).map (fun p => { o with config := p })
  | .inputDir => (once o.inputDir value).map (fun p => { o with inputDir := p })
  | .recordOut => (once o.recordOut value).map (fun p => { o with recordOut := p })
  | .storageOut => (once o.storageOut value).map (fun p => { o with storageOut := p })
  | .ddlOut => (once o.ddlOut value).map (fun p => { o with ddlOut := p })
  | .protoOut => (once o.protoOut value).map (fun p => { o with protoOut := p })
  | .marshalOut => (once o.marshalOut value).map (fun p => { o with marshalOut := p })
  | .format =>
    if o.format.isSome then none
    else (Format.ofName? value).map (fun f => { o with format := some f })
  | .strict | .check => none

/-- Takes in an option without a value. -/
def setSwitch (o : Options) : Flag → Option Options
  | .strict => if o.strict then none else some { o with strict := true }
  | .check => if o.check then none else some { o with check := true }
  | _ => none

/-- Takes in a file. -/
def addFile (o : Options) (file : String) : Option Options :=
  if file.isEmpty then none else some { o with files := o.files ++ [file] }

/-- Takes in files only. -/
def addFiles (o : Options) (files : List String) : Option Options :=
  files.foldlM addFile o

/-- An argument, by its form. -/
inductive Argument where
  /-- The end of the options. -/
  | finish
  /-- A long option, perhaps with a value after an equals sign. -/
  | long (name : String) (value : Option String)
  /-- A letter and what follows it in the same argument. -/
  | short (letter : Char) (rest : List Char)
  /-- Anything else. -/
  | plain (s : String)

/-- The form of an argument. A single dash is a file. -/
def argument (s : String) : Argument :=
  match s.toList with
  | ['-', '-'] => .finish
  | '-' :: '-' :: rest =>
    let name := rest.takeWhile (· != '=')
    match rest.drop name.length with
    | [] => .long (String.ofList name) none
    | _ :: value => .long (String.ofList name) (some (String.ofList value))
  | '-' :: letter :: rest => .short letter rest
  | _ => .plain s

/-- The value in the same argument as a letter, after an equals sign or not. -/
def attached? : List Char → Option String
  | [] => none
  | '=' :: value => some (String.ofList value)
  | value => some (String.ofList value)

/-- Takes in an option whose value may stand beside it. Returns the option itself too if its value
is still to come. -/
def give (o : Options) (flag : Flag) (value : Option String) : Option (Options × Option Flag) :=
  match flag.takesValue, value with
  | true, some value => (o.setValue value flag).map (fun o => (o, none))
  | true, none => some (o, some flag)
  | false, none => (o.setSwitch flag).map (fun o => (o, none))
  | false, some _ => none

/-- Takes in the arguments from some place on. An option that lacks its value waits for it. -/
def readFrom (o : Options) (waiting : Option Flag) : List String → Option Options
  | [] => if waiting.isSome then none else some o
  | s :: rest =>
    match argument s, waiting with
    | .plain value, some flag =>
      (o.setValue value flag).bind (fun o => readFrom o none rest)
    | _, some _ => none
    | .finish, none => o.addFiles rest
    | .plain file, none => (o.addFile file).bind (fun o => readFrom o none rest)
    | .long name value, none =>
      ((Flag.ofName? name).bind (fun flag => o.give flag value)).bind
        (fun p => readFrom p.1 p.2 rest)
    | .short letter tail, none =>
      ((Flag.ofLetter? letter).bind (fun flag => o.give flag (attached? tail))).bind
        (fun p => readFrom p.1 p.2 rest)

/-- What the arguments of a command ask for; nothing if they are no good. -/
def read? (arguments : List String) : Option Options :=
  readFrom {} none arguments

end Options

end SchemaCompiler.Command
