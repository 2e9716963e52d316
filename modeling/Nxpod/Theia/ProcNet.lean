import Mathlib.Data.List.Induction
import Mathlib.Data.List.Nodup
import Mathlib.Tactic.Common
import Nxpod.Library.Hex

/-!
# Listening Ports

The kernel lists the sockets of a workspace in two tables, one for IPv4 and one for IPv6, and the
server of the IDE reads both of them as one text. A row is a socket, with its address, its port and
its state among other things that are not looked at. A port is served globally where its socket
listens on all addresses, and locally otherwise.

A port that listens in both tables is found once where both its sockets are served the same way,
and twice where they are not.

## Main definitions

* `ServedPort`: The numbers are `none` where they are not a number.
* `findListeningPorts`: What is read from the tables.
* `Word`: Text without white space.
* `Socket`, `Snapshot`: What is in the tables.
* `Socket.servedPort`: What a socket is read as.

## Theorems

* `tableRows_trim`: White space around the tables says nothing.
* `words_line`: The words of a row.
* `findListeningPorts_text`: What is read is what listens, each of it once.
-/

namespace Nxpod

namespace Theia

/-! ## Reading -/

/-- Whether a port is served on all addresses. -/
inductive PortServedState
  | globally
  | locally
  deriving DecidableEq

/-- The numbers are `none` where they are not a number. -/
structure ServedPort where
  portNumber : Option Int
  internalPort : Option Int
  served : PortServedState
  deriving DecidableEq

/-- The loop that keeps the first of equal candidates. The keys that it compares are texts that
are equal exactly where the candidates are. -/
def distinct (unfiltered : List ServedPort) : List ServedPort :=
  unfiltered.foldl
    (fun result candidate => if candidate ∈ result then result else result ++ [candidate]) []

/-- `l.split(' ').filter(i => i.length > 0)` -/
def words (line : List Char) : List (List Char) :=
  (line.splitOn ' ').filter fun i => decide (0 < i.length)

/-- The words of the lines that have enough of them. -/
def tableRows (text : List Char) : List (List (List Char)) :=
  ((text.splitOn '\n').map words).filter fun l => decide (4 < l.length)

/-- The parts of an address, with the port as the last one. -/
def listeningPort (px : List (List Char)) : ServedPort :=
  let portNumber := Hex.parseInt (px.getLastD [])
  let isGlobal := px.headD [] = "00000000".toList ∨
    px.headD [] = "00000000000000000000000000000000".toList
  let internalPort := portNumber.map fun n => 30000 + n
  { served := if isGlobal then .globally else .locally
    portNumber := portNumber
    internalPort :=
      if internalPort.any fun n => decide (65535 < n) then portNumber else internalPort }

/-- The ports of the rows that listen. -/
def foundIn (rows : List (List (List Char))) : List ServedPort :=
  let entries := rows.map fun l => (l.getD 1 [], l.getD 3 [])
  let listening := entries.filter fun e => decide (e.2 = "0A".toList)
  listening.map fun e => listeningPort (e.1.splitOn ':')

/-- The ports of the sockets that listen, each of them once. -/
def findListeningPorts (rawProcInfo : String) : List ServedPort :=
  distinct (foundIn (tableRows (Text.trimWhere Text.isSpace rawProcInfo.toList)))

/-! ## The tables -/

/-- An address as the kernel keeps it. -/
inductive Address
  | v4 (a : BitVec 32)
  | v6 (a b c d : BitVec 32)

/-- An address in hexadecimal digits. -/
def Address.text : Address → List Char
  | v4 a => Hex.digits 8 a.toNat
  | v6 a b c d =>
      Hex.digits 8 a.toNat ++ Hex.digits 8 b.toNat ++ Hex.digits 8 c.toNat ++ Hex.digits 8 d.toNat

/-- All addresses. -/
def Address.any : Address → Bool
  | v4 a => a == 0
  | v6 a b c d => a == 0 && b == 0 && c == 0 && d == 0

/-- Text without white space. -/
structure Word where
  text : List Char
  ne_nil : text ≠ []
  word : ∀ c ∈ text, Text.isSpace c = false

/-- A socket, with what is not looked at in the words and the rest. -/
structure Socket where
  slot : Nat
  address : Address
  port : BitVec 16
  remote : Word
  state : BitVec 8
  queues : Word
  rest : List Char
  rest_blank : ∀ c ∈ rest, Text.isSpace c = true → c = ' '

/-- `TCP_LISTEN` -/
def Socket.listens (sock : Socket) : Bool := sock.state == 10

/-- The word with the address and the port. -/
def Socket.localAddress (sock : Socket) : List Char :=
  sock.address.text ++ ':' :: Hex.digits 4 sock.port.toNat

/-- The row of a socket as the kernel prints it. -/
def Socket.line (sock : Socket) : List Char :=
  let slot := (toString sock.slot).toList
  List.replicate (4 - slot.length) ' ' ++ ((slot ++ [':']) ++ ' ' ::
    (sock.localAddress ++ ' ' :: (sock.remote.text ++ ' ' ::
    (Hex.digits 2 sock.state.toNat ++ ' ' :: (sock.queues.text ++ ' ' :: sock.rest)))))

/-- Both tables. -/
structure Snapshot where
  tcp : List Socket
  tcp6 : List Socket

/-- The columns that are not looked at. -/
def columns : List Char := "tx_queue rx_queue tr tm->when retrnsmt   uid  timeout inode".toList

/-- The header of a table as the kernel prints it. -/
def tableHeader (gap : Nat) (remote : List Char) (gap' : Nat) : List Char :=
  List.replicate 2 ' ' ++ ("sl".toList ++ ' ' :: (List.replicate 1 ' ' ++
    ("local_address".toList ++ ' ' :: (List.replicate gap ' ' ++ (remote ++ ' ' ::
    (List.replicate gap' ' ' ++ ("st".toList ++ ' ' :: columns)))))))

/-- The header of the table for IPv4. -/
def tcpHeader : List Char := tableHeader 0 "rem_address".toList 2

/-- The header of the table for IPv6. -/
def tcp6Header : List Char := tableHeader 24 "remote_address".toList 23

/-- Both tables, one after the other. -/
def Snapshot.lines (snap : Snapshot) : List (List Char) :=
  tcpHeader :: snap.tcp.map Socket.line ++ tcp6Header :: snap.tcp6.map Socket.line

/-- The text that the server reads. -/
def Snapshot.text (snap : Snapshot) : String :=
  String.ofList (snap.lines.flatMap fun line => line ++ ['\n'])

/-- The sockets that listen. -/
def Snapshot.listeners (snap : Snapshot) : List Socket :=
  (snap.tcp ++ snap.tcp6).filter Socket.listens

/-- The port that a port is forwarded to, where there is one. -/
def forwardedTo (n : Nat) : Nat := if 65535 < 30000 + n then n else 30000 + n

/-- The port that a socket is to be found as. -/
def Socket.servedPort (sock : Socket) : ServedPort where
  portNumber := some sock.port.toNat
  internalPort := some (forwardedTo sock.port.toNat)
  served := if sock.address.any then .globally else .locally

/-! ## Distinct ports -/

theorem distinct_concat (l : List ServedPort) (p : ServedPort) :
    distinct (l ++ [p]) = if p ∈ distinct l then distinct l else distinct l ++ [p] := by
  rw [distinct, List.foldl_append, List.foldl_cons, List.foldl_nil]
  rfl

theorem mem_distinct (l : List ServedPort) (p : ServedPort) : p ∈ distinct l ↔ p ∈ l := by
  induction l using List.reverseRecOn with
  | nil => exact Iff.rfl
  | append_singleton l q ih =>
      rw [distinct_concat, List.mem_append, List.mem_singleton]
      split_ifs with hq
      · rw [ih]
        exact ⟨Or.inl, fun h => h.elim id fun heq => heq ▸ ih.mp (heq ▸ hq)⟩
      · rw [List.mem_append, List.mem_singleton, ih]

theorem nodup_distinct (l : List ServedPort) : (distinct l).Nodup := by
  induction l using List.reverseRecOn with
  | nil => exact List.nodup_nil
  | append_singleton l q ih =>
      rw [distinct_concat]
      split_ifs with hq
      · exact ih
      · exact List.Nodup.append ih (List.nodup_singleton q) (List.disjoint_singleton.mpr hq)

/-! ## Words -/

variable {line text : List Char}

theorem words_blank (line : List Char) : words (' ' :: line) = words line := by
  rw [words, ← List.nil_append (' ' :: line),
    List.splitOn_append_cons_self_of_not_mem List.not_mem_nil]
  rfl

theorem words_replicate (n : Nat) (line : List Char) :
    words (List.replicate n ' ' ++ line) = words line := by
  induction n with
  | zero => rfl
  | succ n ih => rw [List.replicate_succ, List.cons_append, words_blank, ih]

theorem words_concat_blank (line : List Char) : words (line ++ [' ']) = words line := by
  rw [words, List.splitOn_append_cons_self, List.splitOn_nil, List.filter_append, words]
  exact List.append_nil _

theorem words_cons {w : List Char} (hw : w ≠ []) (h : ' ' ∉ w) (line : List Char) :
    words (w ++ ' ' :: line) = w :: words line := by
  rw [words, List.splitOn_append_cons_self_of_not_mem h, List.filter_cons,
    if_pos (decide_eq_true (List.length_pos_iff.mpr hw)), words]

/-! ## White space around the tables -/

theorem tableRows_newline (text : List Char) : tableRows ('\n' :: text) = tableRows text := by
  rw [tableRows, ← List.nil_append ('\n' :: text),
    List.splitOn_append_cons_self_of_not_mem List.not_mem_nil]
  rfl

theorem tableRows_blank (text : List Char) : tableRows (' ' :: text) = tableRows text := by
  rw [tableRows, List.splitOn_cons_eq_if_modifyHead, if_neg (by decide), tableRows]
  cases text.splitOn '\n' with
  | nil => rfl
  | cons line lines => rw [List.modifyHead_cons, List.map_cons, List.map_cons, words_blank]

theorem tableRows_concat_newline (text : List Char) :
    tableRows (text ++ ['\n']) = tableRows text := by
  rw [tableRows, List.splitOn_append_cons_self, List.splitOn_nil, List.map_append,
    List.filter_append, tableRows]
  exact List.append_nil _

theorem tableRows_concat_blank (text : List Char) :
    tableRows (text ++ [' ']) = tableRows text := by
  -- only the last line gets a blank
  rcases Text.not_mem_or_exists_last '\n' text with hnone | ⟨w, u, rfl, hu⟩
  · have hconcat : '\n' ∉ text ++ [' '] := by
      rw [List.mem_append, List.mem_singleton]
      exact fun h => h.elim hnone (by decide)
    rw [tableRows, List.splitOn_eq_singleton hconcat, tableRows, List.splitOn_eq_singleton hnone,
      List.map_singleton, List.map_singleton, words_concat_blank]
  · have hconcat : '\n' ∉ u ++ [' '] := by
      rw [List.mem_append, List.mem_singleton]
      exact fun h => h.elim hu (by decide)
    rw [List.append_assoc, List.cons_append, tableRows, List.splitOn_append_cons_self,
      List.splitOn_eq_singleton hconcat, tableRows, List.splitOn_append_cons_self,
      List.splitOn_eq_singleton hu, List.map_append, List.map_append, List.map_singleton,
      List.map_singleton, words_concat_blank]

/-- Only blanks and line breaks. -/
def Tabular (text : List Char) : Prop := ∀ c ∈ text, Text.isSpace c = true → c = ' ' ∨ c = '\n'

theorem tableRows_dropWhile (h : Tabular text) :
    tableRows (text.dropWhile Text.isSpace) = tableRows text := by
  induction text with
  | nil => rfl
  | cons c text ih =>
      rw [List.dropWhile_cons]
      split_ifs with hc
      · rw [ih fun d hd => h d (List.mem_cons_of_mem c hd)]
        rcases h c List.mem_cons_self hc with rfl | rfl
        · exact (tableRows_blank text).symm
        · exact (tableRows_newline text).symm
      · rfl

theorem tableRows_reverse_dropWhile (h : Tabular text) :
    tableRows (text.reverse.dropWhile Text.isSpace).reverse = tableRows text := by
  -- what is trimmed at the end goes one character at a time, so the induction is from there
  induction text using List.reverseRecOn with
  | nil => rfl
  | append_singleton text c ih =>
      rw [List.reverse_append, List.reverse_singleton, List.singleton_append, List.dropWhile_cons]
      split_ifs with hc
      · rw [ih fun d hd => h d (List.mem_append_left [c] hd)]
        rcases h c (List.mem_append_right text List.mem_cons_self) hc with rfl | rfl
        · exact (tableRows_concat_blank text).symm
        · exact (tableRows_concat_newline text).symm
      · rw [List.reverse_cons, List.reverse_reverse]

/-- White space around the tables says nothing. -/
theorem tableRows_trim (h : Tabular text) :
    tableRows (Text.trimWhere Text.isSpace text) = tableRows text := by
  rw [Text.trimWhere, tableRows_reverse_dropWhile, tableRows_dropWhile h]
  exact fun c hc => h c ((List.dropWhile_suffix _).subset hc)

/-! ## Rows -/

variable {w v : List Char} {lines : List (List Char)}

/-- No white space but blanks. -/
def Inline (line : List Char) : Prop := ∀ c ∈ line, Text.isSpace c = true → c = ' '

theorem inline_append (hw : Inline w) (hv : Inline v) : Inline (w ++ v) :=
  List.forall_mem_append.mpr ⟨hw, hv⟩

theorem inline_cons {c : Char} (hc : Text.isSpace c = true → c = ' ') (hv : Inline v) :
    Inline (c :: v) :=
  List.forall_mem_cons.mpr ⟨hc, hv⟩

theorem inline_of_word (h : ∀ c ∈ w, Text.isSpace c = false) : Inline w := by
  intro c hc hspace
  rw [h c hc] at hspace
  exact nomatch hspace

theorem inline_of_all (h : w.all (fun c => !Text.isSpace c || c == ' ') = true) : Inline w := by
  intro c hc hspace
  have hc := List.all_eq_true.mp h c hc
  rw [hspace, Bool.not_true, Bool.false_or, beq_iff_eq] at hc
  exact hc

theorem inline_digits (width n : Nat) : Inline (Hex.digits width n) :=
  inline_of_word fun _ hc => Hex.isSpace_of_mem_digits hc

theorem newline_not_mem (h : Inline line) : '\n' ∉ line :=
  fun hmem => absurd (h '\n' hmem rfl) (by decide)

theorem tabular_lines (h : ∀ line ∈ lines, Inline line) :
    Tabular (lines.flatMap fun line => line ++ ['\n']) := by
  intro c hc hspace
  rcases List.mem_flatMap.mp hc with ⟨line, hline, hmem⟩
  rcases List.mem_append.mp hmem with hmem | hmem
  · exact Or.inl (h line hline c hmem hspace)
  · exact Or.inr (List.mem_singleton.mp hmem)

/-- The rows of a table are the lines with enough words. -/
theorem tableRows_lines (h : ∀ line ∈ lines, Inline line) :
    tableRows (lines.flatMap fun line => line ++ ['\n']) =
      (lines.map words).filter fun l => decide (4 < l.length) := by
  rw [tableRows, Text.splitOn_flatMap fun line hline => newline_not_mem (h line hline),
    List.map_append, List.filter_append]
  exact List.append_nil _

theorem isSpace_of_mem_toString {n : Nat} {c : Char} (h : c ∈ (toString n).toList) :
    Text.isSpace c = false := by
  rw [Nat.toString_eq_repr, Nat.repr, String.toList_ofList] at h
  have hdigit := Nat.isDigit_of_mem_toDigits (by omega) (by omega) h
  have hascii : c.toNat < 128 := by
    rw [Char.isDigit, Bool.and_eq_true, decide_eq_true_eq, decide_eq_true_eq] at hdigit
    exact Nat.lt_of_le_of_lt (UInt32.le_iff_toNat_le.mp hdigit.2) (by decide)
  exact Text.of_forall_ascii (fun c => c.isDigit = true → Text.isSpace c = false) (by decide)
    hascii hdigit

/-- What is not white space is no blank. -/
theorem blank_not_mem (h : ∀ c ∈ w, Text.isSpace c = false) : ' ' ∉ w := by
  intro hmem
  exact absurd (h ' ' hmem) (by decide)

/-- What holds of all digits holds of an address. -/
theorem Address.forall_mem_text {P : Char → Prop} (h : ∀ n, ∀ c ∈ Hex.digits 8 n, P c)
    (a : Address) : ∀ c ∈ a.text, P c := by
  cases a with
  | v4 a => exact h _
  | v6 a b c d =>
      rw [Address.text, List.forall_mem_append, List.forall_mem_append, List.forall_mem_append]
      exact ⟨⟨⟨h _, h _⟩, h _⟩, h _⟩

theorem Address.isSpace_text (a : Address) : ∀ c ∈ a.text, Text.isSpace c = false :=
  a.forall_mem_text fun _ _ hc => Hex.isSpace_of_mem_digits hc

theorem Socket.inline_line (sock : Socket) : Inline sock.line := by
  have hblank : Text.isSpace ' ' = true → ' ' = ' ' := fun _ => rfl
  have hcolon : Text.isSpace ':' = true → ':' = ' ' := fun h => absurd h (by decide)
  refine inline_append (fun c hc _ => List.eq_of_mem_replicate hc) ?_
  refine inline_append (inline_append (inline_of_word fun _ => isSpace_of_mem_toString)
    (inline_cons hcolon nofun)) (inline_cons hblank ?_)
  refine inline_append (inline_append (inline_of_word sock.address.isSpace_text)
    (inline_cons hcolon (inline_digits 4 _))) (inline_cons hblank ?_)
  refine inline_append (inline_of_word sock.remote.word) (inline_cons hblank ?_)
  refine inline_append (inline_digits 2 _) (inline_cons hblank ?_)
  exact inline_append (inline_of_word sock.queues.word) (inline_cons hblank sock.rest_blank)

/-- The words of a row. -/
theorem Socket.words_line (sock : Socket) :
    words sock.line = ((toString sock.slot).toList ++ [':']) :: sock.localAddress ::
      sock.remote.text :: Hex.digits 2 sock.state.toNat :: sock.queues.text :: words sock.rest := by
  have hslot : ' ' ∉ (toString sock.slot).toList ++ [':'] := by
    rw [List.mem_append, List.mem_singleton]
    exact fun h => h.elim (blank_not_mem fun _ => isSpace_of_mem_toString) (by decide)
  have haddress : ' ' ∉ sock.localAddress := by
    rw [Socket.localAddress, List.mem_append, List.mem_cons]
    rintro (h | h | h)
    · exact blank_not_mem sock.address.isSpace_text h
    · exact absurd h (by decide)
    · exact Hex.not_mem_digits 4 _ (by decide) h
  have hne : ∀ (w v : List Char) (c : Char), w ++ c :: v ≠ [] :=
    fun w v c h => nomatch (List.append_eq_nil_iff.mp h).2
  have hlocal : sock.localAddress ≠ [] := hne _ _ _
  have hstate : Hex.digits 2 sock.state.toNat ≠ [] := by
    intro h
    have hlength := Hex.length_digits 2 sock.state.toNat
    rw [h] at hlength
    exact nomatch hlength
  rw [Socket.line, words_replicate, words_cons (hne _ _ _) hslot,
    words_cons hlocal haddress, words_cons sock.remote.ne_nil (blank_not_mem sock.remote.word),
    words_cons hstate (Hex.not_mem_digits 2 _ (by decide)),
    words_cons sock.queues.ne_nil (blank_not_mem sock.queues.word)]

/-- The addresses that stand for all of them, as texts. -/
theorem Address.any_iff (a : Address) : a.any = true ↔
    a.text = "00000000".toList ∨ a.text = "00000000000000000000000000000000".toList := by
  have hzero : "00000000".toList = Hex.digits 8 0 := rfl
  have hzeros : "00000000000000000000000000000000".toList =
      Hex.digits 8 0 ++ Hex.digits 8 0 ++ Hex.digits 8 0 ++ Hex.digits 8 0 := rfl
  have hdigits : ∀ b : BitVec 32, Hex.digits 8 b.toNat = Hex.digits 8 0 ↔ b = 0 := fun b =>
    (Hex.digits_inj (by decide) b.isLt (by decide)).trans
      ⟨fun h => BitVec.eq_of_toNat_eq h, fun h => h ▸ rfl⟩
  have hlength : ∀ n, (Hex.digits 8 n).length = 8 := Hex.length_digits 8
  rw [hzero, hzeros]
  cases a with
  | v4 b =>
      rw [Address.any, Address.text, beq_iff_eq, hdigits]
      refine (or_iff_left fun h => ?_).symm
      have hlengths := congrArg List.length h
      simp only [List.length_append, hlength] at hlengths
      exact absurd hlengths (by decide)
  | v6 b c d e =>
      rw [Address.any, Address.text, Bool.and_eq_true, Bool.and_eq_true, Bool.and_eq_true,
        beq_iff_eq, beq_iff_eq, beq_iff_eq, beq_iff_eq, ← hdigits b, ← hdigits c, ← hdigits d,
        ← hdigits e]
      -- four words cannot be the zeros of one
      refine Iff.trans ?_ (or_iff_right fun h => ?_).symm
      · constructor
        · rintro ⟨⟨⟨hb, hc⟩, hd⟩, he⟩
          rw [hb, hc, hd, he]
        · intro h
          rcases List.append_inj' h ((hlength _).trans (hlength _).symm) with ⟨h, he⟩
          rcases List.append_inj' h ((hlength _).trans (hlength _).symm) with ⟨h, hd⟩
          rcases List.append_inj' h ((hlength _).trans (hlength _).symm) with ⟨hb, hc⟩
          exact ⟨⟨⟨hb, hc⟩, hd⟩, he⟩
      · have hlengths := congrArg List.length h
        simp only [List.length_append, hlength] at hlengths
        exact absurd hlengths (by decide)

/-- An address has no colon in it, so the port can be told from it. -/
theorem Address.colon_not_mem (a : Address) : ':' ∉ a.text := by
  have hdigits : ∀ n, ∀ c ∈ Hex.digits 8 n, c ≠ ':' := by
    rintro n c hc rfl
    exact Hex.not_mem_digits 8 n (by decide) hc
  exact fun hmem => a.forall_mem_text hdigits ':' hmem rfl

/-- A socket is read as what it is. -/
theorem listeningPort_localAddress (sock : Socket) :
    listeningPort (sock.localAddress.splitOn ':') = sock.servedPort := by
  have hsplit : sock.localAddress.splitOn ':' =
      [sock.address.text, Hex.digits 4 sock.port.toNat] := by
    rw [Socket.localAddress, List.splitOn_append_cons_self_of_not_mem sock.address.colon_not_mem,
      List.splitOn_eq_singleton (Hex.not_mem_digits 4 _ (by decide))]
  have hport : Hex.parseInt (Hex.digits 4 sock.port.toNat) = some (sock.port.toNat : Int) :=
    Hex.parseInt_digits (by decide) sock.port.isLt
  rw [hsplit, listeningPort, Socket.servedPort, ServedPort.mk.injEq]
  simp only [List.getLastD_cons, List.getLastD_nil, List.headD_cons, hport, Option.map_some,
    Option.any_some, decide_eq_true_eq, ← Address.any_iff]
  refine ⟨trivial, ?_, trivial⟩
  -- the same sum, once of integers and once of natural numbers
  rw [forwardedTo]
  split_ifs with hint hnat
  · rfl
  · omega
  · omega
  · rw [Int.natCast_add]
    rfl

theorem Socket.listens_iff (sock : Socket) :
    sock.listens = true ↔ Hex.digits 2 sock.state.toNat = "0A".toList := by
  have hlisten : "0A".toList = Hex.digits 2 10 := rfl
  rw [hlisten, Hex.digits_inj (by decide) sock.state.isLt (by decide), Socket.listens, beq_iff_eq]
  exact ⟨fun h => h ▸ rfl, fun h => BitVec.eq_of_toNat_eq h⟩

theorem foundIn_append (rows rows' : List (List (List Char))) :
    foundIn (rows ++ rows') = foundIn rows ++ foundIn rows' := by
  rw [foundIn, List.map_append, List.filter_append, List.map_append]
  rfl

/-- What is found in the rows of sockets: those that listen. -/
theorem foundIn_sockets (socks : List Socket) :
    foundIn (((socks.map Socket.line).map words).filter fun l => decide (4 < l.length)) =
      (socks.filter Socket.listens).map Socket.servedPort := by
  induction socks with
  | nil => rfl
  | cons sock socks ih =>
      have hlong : 4 < (words sock.line).length := by
        rw [sock.words_line]
        simp only [List.length_cons]
        omega
      rw [List.map_cons, List.map_cons, List.filter_cons, if_pos (decide_eq_true hlong),
        ← List.singleton_append, foundIn_append, ih, List.filter_cons, sock.words_line]
      split_ifs with hlistens
      · have hstate := sock.listens_iff.mp hlistens
        rw [List.map_cons, ← listeningPort_localAddress, foundIn]
        simp only [List.map_cons, List.map_nil, List.getD_cons_succ, List.getD_cons_zero, hstate,
          decide_true, List.filter_cons, if_true, List.filter_nil, List.singleton_append]
      · have hstate : decide (Hex.digits 2 sock.state.toNat = "0A".toList) = false :=
          decide_eq_false fun h => hlistens (sock.listens_iff.mpr h)
        rw [foundIn]
        simp only [List.map_cons, List.map_nil, List.getD_cons_succ, List.getD_cons_zero, hstate,
          List.filter_cons, Bool.false_eq_true, if_false, List.filter_nil,
          List.nil_append]

theorem inline_tableHeader (gap gap' : Nat) (h : Inline v) : Inline (tableHeader gap v gap') := by
  have hblanks : ∀ n, Inline (List.replicate n ' ') := fun n c hc _ => List.eq_of_mem_replicate hc
  have hblank : Text.isSpace ' ' = true → ' ' = ' ' := fun _ => rfl
  refine inline_append (hblanks 2) (inline_append (inline_of_all rfl) (inline_cons hblank ?_))
  refine inline_append (hblanks 1) (inline_append (inline_of_all rfl) (inline_cons hblank ?_))
  refine inline_append (hblanks gap) (inline_append h (inline_cons hblank ?_))
  exact inline_append (hblanks gap') (inline_append (inline_of_all rfl)
    (inline_cons hblank (inline_of_all rfl)))

/-- A header is no socket. -/
theorem foundIn_tableHeader (gap gap' : Nat) (hv : v ≠ []) (hblank : ' ' ∉ v) :
    foundIn (([tableHeader gap v gap'].map words).filter fun l => decide (4 < l.length)) = [] := by
  have hwords : words (tableHeader gap v gap') =
      "sl".toList :: "local_address".toList :: v :: "st".toList :: words columns := by
    rw [tableHeader, words_replicate, words_cons (by decide) (by decide), words_replicate,
      words_cons (by decide) (by decide), words_replicate, words_cons hv hblank, words_replicate,
      words_cons (by decide) (by decide)]
  rw [List.map_singleton, hwords, List.filter_cons, List.filter_nil]
  split_ifs
  · have hst : decide ("st".toList = "0A".toList) = false := by decide
    rw [foundIn]
    simp only [List.map_cons, List.map_nil, List.getD_cons_succ, List.getD_cons_zero, hst,
      List.filter_cons, Bool.false_eq_true, if_false, List.filter_nil]
  · rfl

/-- What is read is what listens, each of it once. -/
theorem findListeningPorts_text (snap : Snapshot) :
    findListeningPorts snap.text = distinct (snap.listeners.map Socket.servedPort) := by
  have hsockets : ∀ socks : List Socket, ∀ line ∈ socks.map Socket.line, Inline line := by
    intro socks line hline
    rcases List.mem_map.mp hline with ⟨sock, -, rfl⟩
    exact sock.inline_line
  have hremote : Inline "rem_address".toList := inline_of_all rfl
  have hremote6 : Inline "remote_address".toList := inline_of_all rfl
  have hheader : Inline tcpHeader := inline_tableHeader 0 2 hremote
  have hheader6 : Inline tcp6Header := inline_tableHeader 24 23 hremote6
  have hlines : ∀ line ∈ snap.lines, Inline line := by
    intro line hline
    rcases List.mem_append.mp hline with htcp | htcp6
    · rcases List.mem_cons.mp htcp with rfl | htcp
      · exact hheader
      · exact hsockets snap.tcp line htcp
    · rcases List.mem_cons.mp htcp6 with rfl | htcp6
      · exact hheader6
      · exact hsockets snap.tcp6 line htcp6
  -- Trimming takes nothing off the lines, and what is read are their words.
  have hfound : findListeningPorts snap.text =
      distinct (foundIn ((snap.lines.map words).filter fun l => decide (4 < l.length))) := by
    rw [← tableRows_lines hlines, ← tableRows_trim (tabular_lines hlines), findListeningPorts,
      Snapshot.text, String.toList_ofList]
  have hlines : snap.lines = ([tcpHeader] ++ snap.tcp.map Socket.line) ++
      ([tcp6Header] ++ snap.tcp6.map Socket.line) := by
    rw [Snapshot.lines, List.singleton_append, List.singleton_append]
  rw [hfound, hlines, List.map_append, List.map_append, List.map_append, List.filter_append,
    List.filter_append, List.filter_append, foundIn_append, foundIn_append, foundIn_append,
    tcpHeader, foundIn_tableHeader 0 2 (by decide) (by decide), tcp6Header,
    foundIn_tableHeader 24 23 (by decide) (by decide), foundIn_sockets, foundIn_sockets,
    List.nil_append, List.nil_append, ← List.map_append, ← List.filter_append,
    Snapshot.listeners]

end Theia

end Nxpod
