import Stencil.Cli.Access

/-!
A disk as a value on which a command can work without side effects. Files, directories and links go
by numbers, and directories give names to numbers, so that one file may have several names. A path
is followed name by name from the root or from the working directory, through the links on the way.
The system may refuse any part of this, for want of permission or for reasons of its own.
-/
namespace Stencil.Cli

open Text

inductive Inode where
  | file (content : Bytes)
  | directory (parent : Nat) (names : List (String × Nat))
  | link (target : String)

/-- All names stand for numbers below a bound. -/
def Inode.within (bound : Nat) : Inode → Bool
  | .directory _ names => names.all fun entry => entry.2.blt bound
  | _ => true

def Inode.addName (name : String) (n : Nat) : Inode → Inode
  | .directory parent names => .directory parent (names ++ [(name, n)])
  | node => node

namespace Inode

variable {node : Inode} {bound : Nat}

theorem within_mono {bound' : Nat} (h : node.within bound = true) (hle : bound ≤ bound') :
    node.within bound' = true := by
  cases node with
  | file | link => rfl
  | directory parent names =>
    simp only [within, List.all_eq_true, Nat.blt_eq] at h ⊢
    exact fun entry hentry => Nat.lt_of_lt_of_le (h entry hentry) hle

theorem within_addName (name : String) (h : node.within bound = true) :
    (node.addName name bound).within (bound + 1) = true := by
  cases node with
  | file | link => rfl
  | directory parent names =>
    have hmono := within_mono h (Nat.le_succ bound)
    simp only [within] at hmono
    simp [addName, within, hmono]

end Inode

theorem mem_modify {α : Type} {f : α → α} {x : α} {xs : List α} {i : Nat}
    (h : x ∈ xs.modify i f) : ∃ y ∈ xs, x = y ∨ x = f y := by
  obtain ⟨j, hj⟩ := List.mem_iff_getElem?.mp h
  rw [List.getElem?_modify] at hj
  obtain ⟨y, hy, rfl⟩ := Option.map_eq_some_iff.mp hj
  refine ⟨y, List.mem_of_getElem? hy, ?_⟩
  by_cases hij : i = j <;> simp [hij]

inductive Use where
  | path (path : String)
  | search (directory : Nat)
  | lookup (directory : Nat) (name : String)
  | read (file : Nat)
  | write (file : Nat)
  | create (directory : Nat) (name : String)
  deriving DecidableEq

structure Disk where
  nodes : List Inode := [.directory 0 []]
  root : Nat := 0
  working : Nat := 0
  refused : Use → Option FileFault := fun _ => none
  input : Bytes := []
  output : Bytes := []
  /-- Every name stands for something. -/
  inside : nodes.all (·.within nodes.length) = true := by rfl

inductive Place where
  | node (n : Nat)
  | free (directory : Nat) (name : String)
  deriving DecidableEq, Repr

inductive Target where
  | directory (n : Nat)
  | file (n : Nat)
  | link (target : String)
  | nothing
  deriving DecidableEq, Repr

def splitNames : List Char → List (List Char)
  | [] => [[]]
  | c :: rest =>
    if c = '/' then [] :: splitNames rest
    else
      match splitNames rest with
      | [] => [[c]]
      | first :: others => (c :: first) :: others

def pathNames (path : String) : List String := (splitNames path.toList).map String.ofList

def tooManyLinks : FileFault := .other 40 "Too many levels of symbolic links"

/-- How many links a path may lead through. -/
def maxLinks : Nat := 40

namespace Disk

def file? (d : Disk) (n : Nat) : Option Bytes :=
  match d.nodes[n]? with
  | some (.file content) => some content
  | _ => none

def permit (d : Disk) (use : Use) : Except FileFault Unit :=
  match d.refused use with
  | some f => .error f
  | none => .ok ()

def target (d : Disk) (n : Nat) : Target :=
  match d.nodes[n]? with
  | some (.file _) => .file n
  | some (.directory ..) => .directory n
  | some (.link target) => .link target
  | none => .nothing

def named (d : Disk) (names : List (String × Nat)) (name : String) : Target :=
  match names.find? fun entry => entry.1 == name with
  | some entry => d.target entry.2
  | none => .nothing

def enter (d : Disk) (dir : Nat) (name : String) : Except FileFault Target :=
  match d.nodes[dir]? with
  | some (.directory parent names) =>
    if name = "." then .ok (.directory dir)
    else if name = ".." then .ok (.directory parent)
    else .ok (d.named names name)
  | _ => .error .noDirectory

/-- Where a path begins that is found in a directory. -/
def start (d : Disk) (dir : Nat) (path : String) : Nat :=
  if path.toList.head? = some '/' then d.root else dir

/-- Looks up a name in front of others. A slash at the end of a path asks for a directory, and none
is created where a file is wanted. -/
def look (d : Disk) (creating : Bool) (dir : Nat) (name : String) (rest : List String) :
    Except FileFault Target := do
  d.permit (.search dir)
  if creating && !rest.isEmpty && rest.all (· == "") then .error .directory
  else do
    d.permit (.lookup dir name)
    d.enter dir name

/-- Follows names from a directory, with `follow` for what lies behind a link. -/
def walkWith (d : Disk) (creating : Bool) (follow : Nat → List String → Except FileFault Place) :
    Nat → List String → Except FileFault Place
  | dir, [] => .ok (.node dir)
  | dir, name :: rest =>
    if name = "" then d.walkWith creating follow dir rest
    else
      match d.look creating dir name rest with
      | .error f => .error f
      | .ok (.directory n) => d.walkWith creating follow n rest
      | .ok (.file n) => if rest.isEmpty then .ok (.node n) else .error .noDirectory
      | .ok (.link target) => follow (d.start dir target) (pathNames target ++ rest)
      | .ok .nothing => if rest.isEmpty then .ok (.free dir name) else .error .missing

/-- Follows names from a directory through some links at most. -/
def walk (d : Disk) (creating : Bool) : Nat → Nat → List String → Except FileFault Place
  | 0 => d.walkWith creating fun _ _ => .error tooManyLinks
  | links + 1 => d.walkWith creating (d.walk creating links)

/-- Where a path leads, if it is followed to create a file or only to find one. -/
def place (d : Disk) (creating : Bool) (path : String) : Except FileFault Place := do
  d.permit (.path path)
  if path = "" then .error .missing
  else d.walk creating maxLinks (d.start d.working path) (pathNames path)

def openFile (d : Disk) (path : String) : Except FileFault Nat := do
  match ← d.place false path with
  | .free .. => .error .missing
  | .node n => do
    d.permit (.read n)
    match d.file? n with
    | some _ => .ok n
    | none => .error .directory

/-- A number stands for a file with this content from now on. -/
def put (d : Disk) (n : Nat) (content : Bytes) : Disk :=
  { d with
    nodes := d.nodes.set n (.file content)
    inside := by
      rw [List.all_eq_true, List.length_set]
      intro node hnode
      rcases List.mem_or_eq_of_mem_set hnode with hold | rfl
      · exact List.all_eq_true.mp d.inside node hold
      · rfl }

/-- An empty file under a new name. It goes by the next number. -/
def add (d : Disk) (dir : Nat) (name : String) : Disk :=
  { d with
    nodes := d.nodes.modify dir (.addName name d.nodes.length) ++ [.file []]
    inside := by
      rw [List.all_eq_true, List.length_append, List.length_modify]
      intro node hnode
      rcases List.mem_append.mp hnode with hnode | hnode
      · obtain ⟨old, hold, hsame⟩ := mem_modify hnode
        have hwithin := List.all_eq_true.mp d.inside old hold
        rcases hsame with rfl | rfl
        · exact Inode.within_mono hwithin (Nat.le_succ _)
        · exact Inode.within_addName name hwithin
      · cases List.mem_singleton.mp hnode
        rfl }

def emptyFile (d : Disk) (path : String) : Except FileFault (Nat × Disk) := do
  match ← d.place true path with
  | .free dir name => do
    d.permit (.create dir name)
    .ok (d.nodes.length, d.add dir name)
  | .node n =>
    match d.file? n with
    | none => .error .directory
    | some _ => do
      d.permit (.write n)
      .ok (n, d.put n [])

def content (d : Disk) (n : Nat) : Bytes := (d.file? n).getD []

def addToFile (d : Disk) (n : Nat) (bytes : Bytes) : Disk :=
  match d.file? n with
  | some content => d.put n (content ++ bytes)
  | none => d

def access : Access Nat (StateM Disk) where
  openFile path := return (← get).openFile path
  readFile n := return (← get).content n
  emptyFile path := do
    match (← get).emptyFile path with
    | .ok (n, d) => do set d; return .ok n
    | .error f => return .error f
  addToFile n bytes := modify fun d => d.addToFile n bytes
  readInput := return (← get).input
  addToOutput bytes := modify fun d => { d with output := d.output ++ bytes }

end Disk

end Stencil.Cli
