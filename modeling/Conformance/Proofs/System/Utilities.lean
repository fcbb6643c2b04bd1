import Conformance.Proofs.System.Writing
import Conformance.Proofs.Text.Utf8
import Conformance.Proofs.Tree

/-! # Utilities that only write

The programs `echo`, `printf`, `true` and `false`, each as the interpreter of a fixture. The machine
finds them by their names, and what they write comes out as text, although to the machine texts are
bytes.
-/

namespace Conformance

namespace System

/-! ## Texts as bytes -/

theorem toNat_ofNat_byte (b : UInt8) : (Char.ofNat b.toNat).toNat = b.toNat := by
  have valid : b.toNat.isValidChar := .inl (Nat.lt_trans b.toNat_lt (by decide))
  rw [Char.ofNat, dif_pos valid]
  rfl

theorem bytesOf_ofBytes (bytes : List UInt8) : bytesOf (ofBytes bytes) = bytes := by
  rw [bytesOf, ofBytes, List.map_map]
  refine List.map_id'' (fun b => ?_) bytes
  rw [Function.comp_apply, toNat_ofNat_byte]
  exact UInt8.ofNat_toNat

theorem toList_inward (text : String) : (inward text).toList = ofBytes (Text.encode text.toList) :=
  String.toList_ofList

theorem bytesOf_inward (text : String) :
    bytesOf (inward text).toList = Text.encode text.toList := by
  rw [toList_inward, bytesOf_ofBytes]

theorem inward_append (a b : String) : inward (a ++ b) = inward a ++ inward b := by
  simp only [inward, String.toList_append, Text.encode, List.flatMap_append, ofBytes,
    List.map_append, String.ofList_append]

theorem inward_space : inward " " = " " := by decide

theorem inward_newline : inward "\n" = "\n" := by decide

theorem inward_intercalate (words : List String) :
    inward (String.intercalate " " words) = String.intercalate " " (words.map inward) := by
  induction words with
  | nil => rfl
  | cons word words ih =>
    cases words with
    | nil => rw [String.intercalate_singleton, List.map_singleton, String.intercalate_singleton]
    | cons next words =>
      rw [String.intercalate_cons_cons, inward_append, inward_append, inward_space, ih]
      simp only [List.map_cons, String.intercalate_cons_cons]

theorem mem_of_mem_inward {text : String} {c : Char} (among : c ∈ (inward text).toList)
    (ascii : c.toNat < 0x80) : c ∈ text.toList := by
  rw [toList_inward] at among
  obtain ⟨b, listed, rfl⟩ := List.mem_map.mp among
  obtain ⟨x, held, part⟩ := List.mem_flatMap.mp listed
  rw [toNat_ofNat_byte] at ascii
  rwa [← Text.toNat_of_mem_encodeChar part ascii, Char.ofNat_toNat]

/-- A text whose bytes begin with a hyphen begins with one. -/
theorem head?_of_inward {text : String} (hyphen : (inward text).toList.head? = some '-') :
    text.toList.head? = some '-' := by
  obtain ⟨rest, starts⟩ := List.head?_eq_some_iff.mp hyphen
  have bytes : Text.encode text.toList = Text.encodeChar '-' ++ bytesOf rest := by
    rw [← bytesOf_inward, starts]
    rfl
  have parts := congrArg Text.utf8Parts bytes
  rw [Text.utf8Parts_encode, Text.utf8Parts_encodeChar_append] at parts
  obtain ⟨c, _, same, first, -⟩ := List.map_eq_cons_iff.mp parts
  rw [same, List.head?_cons, first]

end System

/-! ## Formats -/

namespace Format

theorem isEchoOption_eq_false {word : String} (plain : word.toList.head? ≠ some '-') :
    isEchoOption word = false := by
  unfold isEchoOption
  split
  · next starts =>
    rw [starts] at plain
    exact absurd rfl plain
  · rfl

theorem echoProgram_eq {arguments : List String}
    (plain : ∀ word ∈ arguments.head?, word.toList.head? ≠ some '-') :
    echoProgram arguments = (String.intercalate " " arguments ++ "\n").toList := by
  have none : arguments.takeWhile isEchoOption = [] := by
    cases arguments with
    | nil => rfl
    | cons word rest =>
      have operand := isEchoOption_eq_false (plain word rfl)
      exact List.takeWhile_cons_of_neg (ne_true_of_eq_false operand)
  rw [echoProgram, none, String.toList_append]
  rfl

theorem readPieces_eq_map {fuel : Nat} {text : List Char} (d : Dialect)
    (enough : text.length < fuel) (plain : ∀ c ∈ text, c ≠ '%' ∧ c ≠ '\\') :
    readPieces d fuel text = (text.map fun c => [c]).map .text := by
  induction text generalizing fuel with
  | nil => cases fuel <;> rfl
  | cons c text ih =>
    obtain ⟨fuel, rfl⟩ := Nat.exists_eq_succ_of_ne_zero (Nat.ne_zero_of_lt enough)
    obtain ⟨⟨percent, backslash⟩, rest⟩ := List.forall_mem_cons.mp plain
    rw [readPieces, ih (Nat.lt_of_succ_lt_succ enough) rest, List.map_cons, List.map_cons]
    · exact fun _ same => absurd same percent
    · exact percent
    · exact backslash

theorem writePieces_eq (d : Dialect) (quoted : String → String) (texts : List (List Char))
    (p : Progress) : (writePieces d quoted (texts.map .text)).run p =
      ((), { p with events := (texts.map .text).reverse ++ p.events }) := by
  induction texts generalizing p with
  | nil => rfl
  | cons text texts ih =>
    rw [List.map_cons, writePieces]
    simp only [List.map_cons, List.reverse_cons, List.append_assoc]
    exact ih { p with events := .text text :: p.events }

theorem repeatPieces_of_done {d : Dialect} {quoted : String → String} {pieces : List Piece}
    {p p' : Progress} (written : (writePieces d quoted pieces).run p = ((), p'))
    (done : p'.arguments = []) (fuel : Nat) :
    (repeatPieces d quoted pieces (fuel + 1)).run p = ((), p') := by
  have idle : ¬((!p'.stopped && !p'.arguments.isEmpty) = true) := by simp [done]
  simp only [repeatPieces, StateT.run_bind, StateT.run_get, pure_bind, written]
  change StateT.run (if (!p'.stopped && !p'.arguments.isEmpty) = true then _ else _) p' = _
  rw [if_neg idle]
  rfl

/-- A format without directives and escapes stands for itself. -/
theorem printf_eq_map {format : String} (d : Dialect) (quoted : String → String)
    (plain : ∀ c ∈ format.toList, c ≠ '%' ∧ c ≠ '\\') :
    printf d quoted format [] = (format.toList.map fun c => [c]).map .text := by
  have enough : format.toList.length < format.length + 1 := Nat.lt_succ_self _
  have written := writePieces_eq d quoted (format.toList.map fun c => [c]) { arguments := [] }
  rw [printf, readPieces_eq_map d enough plain]
  simp only [List.length_nil, repeatPieces_of_done written rfl, List.append_nil,
    List.reverse_reverse]

end Format

/-! ## What utilities write -/

namespace Utility

open Conformance.System

/-- What is written of some bytes: nothing if there are none. -/
def chunksOf (bytes : List UInt8) : List (List UInt8) := if bytes.isEmpty then [] else [bytes]

theorem flatten_chunksOf (bytes : List UInt8) : (chunksOf bytes).flatten = bytes := by
  cases bytes <;> simp [chunksOf]

theorem length_chunksOf_le (bytes : List UInt8) : (chunksOf bytes).length ≤ 1 := by
  cases bytes <;> simp [chunksOf]

theorem writes_put (name : String) (status : Nat) (bytes : List UInt8) :
    (Action.toAct do afterWriting name status (← put bytes)).Writes (chunksOf bytes) status := by
  cases bytes with
  | nil => exact .exit status
  | cons b bytes => exact .write rfl (.exit status)

namespace Printf

theorem writes_writeEvents (name : String) (texts shown : List (List Char)) (status : Nat) :
    (writeEvents name (texts.map .text) shown status).toAct.Writes
      (chunksOf (bytesOf (shown.reverse ++ texts).flatten)) status := by
  induction texts generalizing shown with
  | nil =>
    rw [List.append_nil]
    exact writes_put name status _
  | cons text texts ih =>
    have onward := ih (text :: shown)
    rw [List.reverse_cons, List.append_assoc] at onward
    exact onward

theorem writes_echo (name : String) {words : List String}
    (plain : ∀ word ∈ words.head?, word.toList.head? ≠ some '-') :
    (echo name (words.map inward)).toAct.Writes
      (chunksOf (Text.encode (String.intercalate " " words ++ "\n").toList)) 0 := by
  have inside : ∀ word ∈ (words.map inward).head?, word.toList.head? ≠ some '-' := by
    intro word first hyphen
    rw [List.head?_map] at first
    obtain ⟨outside, given, rfl⟩ := Option.map_eq_some_iff.mp first
    exact plain outside given (head?_of_inward hyphen)
  have shown : bytesOf (Format.echoProgram (words.map inward)) =
      Text.encode (String.intercalate " " words ++ "\n").toList := by
    rw [Format.echoProgram_eq inside, ← inward_intercalate, ← bytesOf_inward, inward_append,
      inward_newline]
  rw [← shown]
  exact writes_put name 0 _

theorem writes_printf (name : String) {format : String}
    (plain : ∀ c ∈ format.toList, c ≠ '%' ∧ c ≠ '\\')
    (noOption : format.toList.head? ≠ some '-') :
    (run name [inward format]).toAct.Writes (chunksOf (Text.encode format.toList)) 0 := by
  have inside : ∀ c ∈ (inward format).toList, c ≠ '%' ∧ c ≠ '\\' := by
    intro c among
    constructor <;> rintro rfl
    · exact (plain _ (mem_of_mem_inward among (by decide))).1 rfl
    · exact (plain _ (mem_of_mem_inward among (by decide))).2 rfl
  have events := Format.printf_eq_map .program quoteIfNeeded inside
  have writes := writes_writeEvents name ((inward format).toList.map fun c => [c]) [] 0
  rw [← events] at writes
  have other {option : String} (hyphen : option.toList.head? = some '-') :
      inward format ≠ option := fun same => noOption (head?_of_inward (same ▸ hyphen))
  have short : run name [inward format] =
      writeEvents name (Format.printf .program quoteIfNeeded (inward format) []) [] 0 := by
    unfold run
    split
    · next same => exact absurd (List.cons.inj same).1 (other (by decide))
    · next same => exact absurd (List.cons.inj same).1 (other (by decide))
    · extract_lets args
      have whole : args = [inward format] := by
        unfold args
        split
        · next same => exact absurd (List.cons.inj same).1 (other (by decide))
        · rfl
      rw [whole]
  rw [short, ← bytesOf_inward]
  rwa [List.reverse_nil, List.nil_append, ← List.flatMap_def, List.flatMap_singleton']
    at writes

end Printf

end Utility

/-! ## Where utilities are -/

namespace System.World

variable {work : Tree} {name dir : String} {args : List String}

def searchPath : List String :=
  ["/usr/local/sbin", "/usr/local/bin", "/usr/sbin", "/usr/bin", "/sbin", "/bin"]

theorem pathsOf_of_isName (isName : Path.IsName name) :
    pathsOf name = searchPath.map (· ++ "/" ++ name) := by
  rw [pathsOf, if_neg (by simpa using isName.no_slash)]
  rfl

theorem utility_valid (listed : name ∈ utilities.map Prod.fst) :
    Path.IsName name ∧ name.length ≤ 6 := by
  revert listed
  revert name
  decide

theorem inward_utility (listed : name ∈ utilities.map Prod.fst) : inward name = name := by
  revert listed
  revert name
  decide

theorem searchPath_valid (listed : dir ∈ searchPath) :
    '\x00' ∉ dir.toList ∧ dir.length ≤ 15 := by
  revert listed
  revert dir
  decide

/-- The tree of the machine around a directory, with names as bytes. -/
def rawTree (work : Tree) : Tree := (treeAround work).rename inward

theorem find_eq_follow (listed : name ∈ utilities.map Prod.fst) (searched : dir ∈ searchPath)
    {parts : List String} (split : Path.segments dir = "" :: parts) :
    (ofFiles (filesAround work)).files.find (dir ++ "/" ++ name) =
      (rawTree work).follow String.length true Tree.maxLinks [] (parts ++ [name]) := by
  have ⟨isName, size⟩ := utility_valid listed
  have ⟨noNull, dirSize⟩ := searchPath_valid searched
  have accepted : (ofFiles (filesAround work)).files.Accepts (dir ++ "/" ++ name) := by
    constructor
    case given => simp
    case no_null => simp [noNull, isName.no_null]
    case fits =>
      change (dir ++ "/" ++ name).length ≤ 4095
      have slash : "/".length = 1 := rfl
      rw [String.length_append, String.length_append, slash]
      omega
  have segments : Path.segments (dir ++ "/" ++ name) = _ := Path.segments_slash isName
  rw [split] at segments
  rw [accepted.find_eq segments, if_pos rfl, Tree.follow_stay (.inl rfl)]
  rfl

theorem looksUp_of_length_le (isName : Path.IsName name) (short : name.length ≤ 6) :
    Tree.LooksUp String.length name :=
  Tree.looksUp_of_isName isName (Nat.le_trans short (by decide))

theorem follow_usr (work : Tree) (parts : List String) :
    (rawTree work).follow String.length true Tree.maxLinks [] ("usr" :: parts) =
      (rawTree work).follow String.length true Tree.maxLinks ["usr"] parts := by
  have isDir : (rawTree work).get? ["usr"] = some (.dir [("bin", programFiles.rename inward)]) :=
    rfl
  exact Tree.follow_dir (looksUp_of_length_le (by decide) (by decide)) isDir

/-- There is no directory for programs but one. -/
theorem programAt_of_missing (listed : name ∈ utilities.map Prod.fst) (searched : dir ∈ searchPath)
    {first : String} {rest : List String} (split : Path.segments dir = "" :: "usr" :: first :: rest)
    (isName : Path.IsName first) (short : first.length ≤ 6)
    (missing : (rawTree work).get? ["usr", first] = none) :
    (programAt (ofFiles (filesAround work)).files (dir ++ "/" ++ name)).toOption = none := by
  have onward : (rest ++ [name]).isEmpty = false := by simp
  have lost : (ofFiles (filesAround work)).files.find (dir ++ "/" ++ name) = .error .missing := by
    rw [find_eq_follow listed searched split, List.cons_append, List.cons_append, follow_usr,
      Tree.follow_missing (looksUp_of_length_le isName short) missing, onward]
    rfl
  rw [programAt, lost]
  rfl

theorem get?_utility (listed : name ∈ utilities.map Prod.fst) :
    (rawTree work).get? ["usr", "bin", name] = some (.program name) := by
  have held : ∀ name ∈ utilities.map Prod.fst,
      Tree.entry? name (programFiles.rename inward) = some (.program name) := by
    unfold utilities
    simp only [List.map_cons, List.map_nil, List.forall_mem_cons]
    exact ⟨rfl, rfl, rfl, rfl, rfl, rfl, rfl, rfl, nofun⟩
  have inside : (rawTree work).get? ["usr", "bin"] = some (programFiles.rename inward) := rfl
  have found := Tree.get?_snoc (rawTree work) ["usr", "bin"] name
  rw [inside, Option.bind_some, held name listed] at found
  exact found

theorem programAt_utility (listed : name ∈ utilities.map Prod.fst) :
    programAt (ofFiles (filesAround work)).files ("/usr/bin" ++ "/" ++ name) = .ok name := by
  have ⟨isName, size⟩ := utility_valid listed
  have split : Path.segments "/usr/bin" = "" :: ["usr", "bin"] := by decide
  have isDir : (rawTree work).get? ["usr", "bin"] = some (programFiles.rename inward) := rfl
  have found : (ofFiles (filesAround work)).files.find ("/usr/bin" ++ "/" ++ name) =
      .ok ⟨["usr", "bin", name], true⟩ := by
    rw [find_eq_follow listed (by decide) split, List.cons_append, follow_usr,
      List.singleton_append,
      Tree.follow_dir (looksUp_of_length_le (by decide) (by decide)) isDir,
      Tree.follow_leaf (looksUp_of_length_le isName size) (get?_utility listed) (by simp)
        (by simp)]
    rfl
  have program : (ofFiles (filesAround work)).files.top.get? ["usr", "bin", name] =
      some (.program name) := get?_utility listed
  simp only [programAt, found, program]

/-- A utility is found by its name. -/
theorem programOf?_utility (listed : name ∈ utilities.map Prod.fst)
    (passable : args.all isPassable = true) (short : tooLong (name :: args) environment = false) :
    (ofFiles (filesAround work)).programOf? name args = some name := by
  have ⟨isName, _⟩ := utility_valid listed
  have valid : isPassable name = true := by
    simpa [isPassable] using isName.no_null
  have given : name.isEmpty = false := by simpa using isName.ne_empty
  have refused : (name.isEmpty || !isPassable name || !args.all isPassable ||
      tooLong (name :: args) environment) = false := by
    rw [given, valid, passable, short]
    rfl
  have local_sbin : Path.segments "/usr/local/sbin" = ["", "usr", "local", "sbin"] := by decide
  have local_bin : Path.segments "/usr/local/bin" = ["", "usr", "local", "bin"] := by decide
  have sbin : Path.segments "/usr/sbin" = ["", "usr", "sbin"] := by decide
  rw [programOf?, if_neg (ne_true_of_eq_false refused), pathsOf_of_isName isName]
  simp only [searchPath, List.map_cons, List.findSome?_cons]
  rw [programAt_of_missing listed (by decide) local_sbin (by decide) (by decide) rfl,
    programAt_of_missing listed (by decide) local_bin (by decide) (by decide) rfl,
    programAt_of_missing listed (by decide) sbin (by decide) (by decide) rfl,
    programAt_utility listed]
  rfl

end System.World

/-! ## Utilities as interpreters -/

namespace Suite

open Conformance.System (machine longestLimit inward programs utilities filesAround)
open Conformance.System.World (environment endOf startTime isPassable tooLong)

variable {s : Suite} {path name : String} {work : Tree} {code : Nat}

theorem inTime_of_length_le {chunks : List (List UInt8)} {timeout : Option Duration}
    (one : chunks.length ≤ 1) (limited : ∀ limit ∈ timeout, ∃ seconds, limit = ⟨seconds + 1, 0⟩) :
    Process.InTime timeout (endOf startTime chunks) := by
  intro limit given
  obtain ⟨seconds, rfl⟩ := limited limit given
  rw [Process.lookAfter_seconds, Process.toNanos_mk]
  unfold Process.lookAfter Process.pollInterval Process.micro endOf startTime System.World.callTime
  omega

/-- A utility is the interpreter, and what it is given can be passed to it. -/
structure IsRunBy (s : Suite) (path name : String) : Prop where
  listed : name ∈ utilities.map Prod.fst
  executable : s.interpreter.executable = name
  passable : ((s.interpreter.arguments path).map inward).all isPassable = true
  short : tooLong (name :: (s.interpreter.arguments path).map inward) environment = false
  limited : ∀ limit ∈ s.interpreter.timeout, ∃ seconds < longestLimit, limit = ⟨seconds + 1, 0⟩

theorem IsRunBy.exitsWith (runs : s.IsRunBy path name) {text : String}
    (writes : (programs name (name :: (s.interpreter.arguments path).map inward)
      environment).Writes (Utility.chunksOf (Text.encode text.toList)) code) :
    s.ExitsWith machine path (.ofFiles (filesAround work)) ⟨text, "", (code % 256 : Nat)⟩ := by
  have found : (System.World.ofFiles (filesAround work)).programOf? name _ = some name :=
    System.World.programOf?_utility runs.listed runs.passable runs.short
  have one := Utility.length_chunksOf_le (Text.encode text.toList)
  have executable : inward s.interpreter.executable = name := by
    rw [runs.executable, System.World.inward_utility runs.listed]
  rw [← executable] at found writes
  have exits := exitsWith_of_writes found writes (Nat.lt_of_le_of_lt one (by decide))
    (inTime_of_length_le one fun limit given => by
      obtain ⟨seconds, -, same⟩ := runs.limited limit given
      exact ⟨seconds, same⟩)
    fun limit given => by
      obtain ⟨seconds, lt, same⟩ := runs.limited limit given
      exact ⟨seconds + 1, lt, same⟩
  rwa [Utility.flatten_chunksOf, Text.decodeLossy_encode, String.ofList_toList] at exits

theorem exitsWith_echo (runs : s.IsRunBy path "echo")
    (plain : ∀ word ∈ (s.interpreter.arguments path).head?, word.toList.head? ≠ some '-') :
    s.ExitsWith machine path (.ofFiles (filesAround work))
      ⟨String.intercalate " " (s.interpreter.arguments path) ++ "\n", "", 0⟩ :=
  runs.exitsWith (Utility.Printf.writes_echo "echo" plain)

theorem exitsWith_printf {format : String} (runs : s.IsRunBy path "printf")
    (only : s.interpreter.arguments path = [format])
    (plain : ∀ c ∈ format.toList, c ≠ '%' ∧ c ≠ '\\')
    (noOption : format.toList.head? ≠ some '-') :
    s.ExitsWith machine path (.ofFiles (filesAround work)) ⟨format, "", 0⟩ := by
  have writes := Utility.Printf.writes_printf "printf" plain noOption
  rw [← List.map_singleton, ← only] at writes
  exact runs.exitsWith writes

theorem exitsWith_silent (runs : s.IsRunBy path name)
    (silent : ∀ args, programs name args environment = .exit code) :
    s.ExitsWith machine path (.ofFiles (filesAround work)) ⟨"", "", (code % 256 : Nat)⟩ := by
  have writes (args : List String) : (programs name args environment).Writes
      (Utility.chunksOf (Text.encode "".toList)) code := by
    rw [silent]
    exact .exit code
  exact runs.exitsWith (writes _)

theorem exitsWith_true (runs : s.IsRunBy path "true") :
    s.ExitsWith machine path (.ofFiles (filesAround work)) ⟨"", "", 0⟩ :=
  exitsWith_silent runs fun _ => rfl

theorem exitsWith_false (runs : s.IsRunBy path "false") :
    s.ExitsWith machine path (.ofFiles (filesAround work)) ⟨"", "", 1⟩ :=
  exitsWith_silent runs fun _ => rfl

end Suite

end Conformance
