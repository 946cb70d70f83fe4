import SampleTypes.Command.Reach

/-!
# The program as it is started

The files that the program can look at are read first, then the program runs on what was read,
and what it changed is written back.  There is no connection to a network here, so every search
is answered as unreachable.
-/

namespace SampleTypes.Start

/-- the item at a path, if there is one -/
def itemAt (path : String) : IO (Option Item) := do
  try
    if ← (← IO.FS.realPath path).isDir then return some .directory
    let bytes ← IO.FS.readBinFile path
    return some (.file (bytes.toList.map (·.toNat)))
  catch _ => return none

/-- the disk with the item at a place -/
def lookAt (d : Disk) (p : Place) : IO Disk := do
  if p = .root then return d
  match ← itemAt p.pathname.text with
  | some i => return d.put p i
  | none => return d

/-- the disk with the items on the way of some steps -/
def lookAlong (d : Disk) (p : Place) : List String → IO Disk
  | [] => return d
  | s :: ss => do lookAlong (← lookAt d (p.step s)) (p.step s) ss

/-- the disk with the items on the way of some pathnames -/
def lookAlongAll (d : Disk) : List Pathname → IO Disk
  | [] => return d
  | p :: ps => do
    let start := if p.isRelative then d.here else .root
    lookAlongAll (← lookAlong d start p.steps) ps

/-- the bytes between zeros, as texts -/
def textsOf (bytes : List Nat) : List String :=
  (Text.lenient bytes |>.splitOn "\x00").filter (!·.isEmpty)

/-- the variables that the program is started with -/
def environment : IO Environment := do
  try
    let bytes ← IO.FS.readBinFile "/proc/self/environ"
    let vars := (textsOf (bytes.toList.map (·.toNat))).map Command.nameAndValue
    return Fields.ofPairs (vars.map fun v => (v.1, v.2.getD ""))
  catch _ => return []

/-- what is new or different on a disk, written back -/
def writeBack : List (String × Item) → IO Unit
  | [] => return
  | (path, i) :: rest => do
    match i with
    | .directory => IO.FS.createDirAll ("/" ++ path)
    | .file bs => IO.FS.writeBinFile ("/" ++ path) ⟨(bs.map UInt8.ofNat).toArray⟩
    writeBack rest

/-- the reply to every search -/
def unreachable (_ : Search.Request) (s : Unit) : Search.Reply × Unit :=
  (.unreachable "no network", s)

/-- the program -/
def run (args : List String) : IO UInt32 := do
  let here := (Pathname.ofText (toString (← IO.currentDir))).steps
  let env ← environment
  let d ← lookAlong {} .root here
  let d ← lookAlongAll { d with here := ⟨here⟩ } (Command.Reach.readable args)
  let d ← lookAlongAll d (Command.Reach.outputs d env args)
  let o := Command.Program.run unreachable { disk := d, env, source := () } args
  writeBack (d.changes o.disk .root)
  IO.print o.stdout
  IO.eprint o.stderr
  return o.exitCode.toUInt32

end SampleTypes.Start

def main (args : List String) : IO UInt32 := SampleTypes.Start.run args
