import ViperChain.Cbor

/-!
A definite-length CBOR codec for value trees. The reader takes one item off the front of its
input and reads back every value the writer accepts.
-/

namespace ViperChain

namespace CborFormat

section Writing

def head (major argument : Nat) : Bytes :=
  if argument < 24 then [Fin.ofNat 256 (major * 32 + argument)]
  else if argument < 2 ^ 8 then Fin.ofNat 256 (major * 32 + 24) :: toBeBytes 1 argument
  else if argument < 2 ^ 16 then Fin.ofNat 256 (major * 32 + 25) :: toBeBytes 2 argument
  else if argument < 2 ^ 32 then Fin.ofNat 256 (major * 32 + 26) :: toBeBytes 4 argument
  else Fin.ofNat 256 (major * 32 + 27) :: toBeBytes 8 argument

mutual

def write : Value → Bytes
  | .integer number =>
      if 0 ≤ number then head 0 number.toNat else head 1 (-1 - number).toNat
  | .bytes content => head 2 content.length ++ content
  | .text content => head 3 content.length ++ content
  | .array items => head 4 items.length ++ writeItems items
  | .map entries => head 5 entries.length ++ writeEntries entries
  | .tag number content => head 6 number ++ write content
  | .bool value => [if value then 0xF5 else 0xF4]
  | .null => [0xF6]
  | .float bits => 0xFB :: toBeBytes 8 bits

def writeItems : List Value → Bytes
  | [] => []
  | item :: items => write item ++ writeItems items

def writeEntries : List (Value × Value) → Bytes
  | [] => []
  | (key, value) :: entries => write key ++ (write value ++ writeEntries entries)

end

mutual

def fits : Value → Bool
  | .integer number => -(2 ^ 64 : Int) ≤ number && number < 2 ^ 64
  | .bytes content => content.length < 2 ^ 64
  | .text content => content.length < 2 ^ 64
  | .array items => items.length < 2 ^ 64 && fitsItems items
  | .map entries => entries.length < 2 ^ 64 && fitsEntries entries
  | .tag number content => number < 2 ^ 64 && fits content
  | .bool _ => true
  | .null => true
  | .float bits => bits < 2 ^ 64

def fitsItems : List Value → Bool
  | [] => true
  | item :: items => fits item && fitsItems items

def fitsEntries : List (Value × Value) → Bool
  | [] => true
  | (key, value) :: entries => fits key && fits value && fitsEntries entries

end

end Writing

section Reading

structure Head where
  major : Nat
  info : Nat
  argument : Nat

def readHead : Bytes → Option (Head × Bytes)
  | [] => none
  | first :: rest =>
      let major := first.val / 32
      let info := first.val % 32
      let wide (width : Nat) : Option (Head × Bytes) :=
        if rest.length < width then none
        else some (⟨major, info, ofBeBytes (rest.take width)⟩, rest.drop width)
      if info < 24 then some (⟨major, info, info⟩, rest)
      else if info = 24 then wide 1
      else if info = 25 then wide 2
      else if info = 26 then wide 4
      else if info = 27 then wide 8
      else none

def readBytes (count : Nat) (bytes : Bytes) : Option (Bytes × Bytes) :=
  if bytes.length < count then none else some (bytes.take count, bytes.drop count)

mutual

def read : Nat → Bytes → Option (Value × Bytes)
  | 0, _ => none
  | fuel + 1, bytes => do
      let (head, rest) ← readHead bytes
      match head.major, head.info with
      | 0, _ => return (.integer head.argument, rest)
      | 1, _ => return (.integer (-1 - head.argument), rest)
      | 2, _ => do
          let (content, rest) ← readBytes head.argument rest
          return (.bytes content, rest)
      | 3, _ => do
          let (content, rest) ← readBytes head.argument rest
          return (.text content, rest)
      | 4, _ => do
          let (items, rest) ← readItems fuel head.argument rest
          return (.array items, rest)
      | 5, _ => do
          let (entries, rest) ← readEntries fuel head.argument rest
          return (.map entries, rest)
      | 6, _ => do
          let (content, rest) ← read fuel rest
          return (.tag head.argument content, rest)
      | 7, 20 => return (.bool false, rest)
      | 7, 21 => return (.bool true, rest)
      | 7, 22 => return (.null, rest)
      | 7, 27 => return (.float head.argument, rest)
      | _, _ => none

def readItems : Nat → Nat → Bytes → Option (List Value × Bytes)
  | _, 0, bytes => some ([], bytes)
  | 0, _ + 1, _ => none
  | fuel + 1, count + 1, bytes => do
      let (item, rest) ← read fuel bytes
      let (items, rest) ← readItems fuel count rest
      return (item :: items, rest)

def readEntries : Nat → Nat → Bytes → Option (List (Value × Value) × Bytes)
  | _, 0, bytes => some ([], bytes)
  | 0, _ + 1, _ => none
  | fuel + 1, count + 1, bytes => do
      let (key, rest) ← read fuel bytes
      let (value, rest) ← read fuel rest
      let (entries, rest) ← readEntries fuel count rest
      return ((key, value) :: entries, rest)

end

def decode (bytes : Bytes) : Option Value := (read (2 * bytes.length) bytes).map Prod.fst

def encode (value : Value) : Option Bytes := if fits value then some (write value) else none

end Reading

section RoundTrip

def infoOf (argument : Nat) : Nat :=
  if argument < 24 then argument
  else if argument < 2 ^ 8 then 24
  else if argument < 2 ^ 16 then 25
  else if argument < 2 ^ 32 then 26
  else 27

theorem head_length_pos (major argument : Nat) : 0 < (head major argument).length := by
  unfold head
  split_ifs <;> simp

theorem head_length_le (major argument : Nat) : (head major argument).length ≤ 9 := by
  unfold head
  split_ifs <;> simp

theorem take_toBeBytes {width argument : Nat} (rest : Bytes) (fits : argument < 256 ^ width) :
    ofBeBytes ((toBeBytes width argument ++ rest).take width) = argument := by
  rw [List.take_left' (toBeBytes_length _ _), ofBeBytes_toBeBytes, Nat.mod_eq_of_lt fits]

theorem drop_toBeBytes (width argument : Nat) (rest : Bytes) :
    (toBeBytes width argument ++ rest).drop width = rest :=
  List.drop_left' (toBeBytes_length _ _)

theorem readHead_head {major argument : Nat} (rest : Bytes) (major_lt : major < 8)
    (argument_lt : argument < 2 ^ 64) :
    readHead (head major argument ++ rest) =
      some (⟨major, infoOf argument, argument⟩, rest) := by
  have majorOf : ∀ info < 32, (major * 32 + info) % 256 / 32 = major := by omega
  have infoOf : ∀ info < 32, (major * 32 + info) % 256 % 32 = info := by omega
  have enough : ∀ width, ¬width + rest.length < width := by omega
  unfold head CborFormat.infoOf
  split_ifs with small byte short word
  · simp [readHead, Fin.ofNat, majorOf argument (by omega), infoOf argument (by omega), small]
  all_goals
    simp only [readHead, List.cons_append, Fin.ofNat, List.length_append, toBeBytes_length]
    rw [take_toBeBytes rest (by omega), drop_toBeBytes]
    simp only [enough]
    simp [majorOf, infoOf]

theorem readBytes_append (content rest : Bytes) :
    readBytes content.length (content ++ rest) = some (content, rest) := by
  simp [readBytes]

theorem write_length_pos (value : Value) : 0 < (write value).length := by
  cases value with
  | integer number => simp only [write]; split_ifs <;> exact head_length_pos _ _
  | bytes content | text content | array items | map entries | tag number content =>
      simp only [write, List.length_append]
      exact Nat.add_pos_left (head_length_pos _ _) _
  | bool value | null | float bits => simp [write]

mutual

theorem read_write (value : Value) (rest : Bytes) (fuel : Nat) (fitting : fits value = true)
    (enough : 2 * (write value).length ≤ fuel + 1) :
    read fuel (write value ++ rest) = some (value, rest) := by
  have positive := write_length_pos value
  obtain ⟨fuel, rfl⟩ : ∃ less, fuel = less + 1 := ⟨fuel - 1, by omega⟩
  cases value with
  | integer number =>
      simp only [fits, Bool.and_eq_true, decide_eq_true_eq] at fitting
      simp only [write]
      split_ifs with sign
      · rw [read, readHead_head rest (by decide) (by omega)]
        simp [sign]
      · rw [read, readHead_head rest (by decide) (by omega)]
        simp only [Option.bind_eq_bind, Option.bind_some, Option.pure_def, Option.some.injEq,
          Prod.mk.injEq, Value.integer.injEq, and_true]
        omega
  | bytes content =>
      simp only [fits, decide_eq_true_eq] at fitting
      simp only [write, List.append_assoc]
      rw [read, readHead_head _ (by decide) fitting]
      simp [readBytes_append]
  | text content =>
      simp only [fits, decide_eq_true_eq] at fitting
      simp only [write, List.append_assoc]
      rw [read, readHead_head _ (by decide) fitting]
      simp [readBytes_append]
  | array items =>
      simp only [fits, Bool.and_eq_true, decide_eq_true_eq] at fitting
      have headed := head_length_pos 4 items.length
      simp only [write, List.append_assoc, List.length_append] at enough ⊢
      rw [read, readHead_head _ (by decide) fitting.1]
      simp [readItems_write items rest fuel fitting.2 (by omega)]
  | map entries =>
      simp only [fits, Bool.and_eq_true, decide_eq_true_eq] at fitting
      have headed := head_length_pos 5 entries.length
      simp only [write, List.append_assoc, List.length_append] at enough ⊢
      rw [read, readHead_head _ (by decide) fitting.1]
      simp [readEntries_write entries rest fuel fitting.2 (by omega)]
  | tag number content =>
      simp only [fits, Bool.and_eq_true, decide_eq_true_eq] at fitting
      have headed := head_length_pos 6 number
      simp only [write, List.append_assoc, List.length_append] at enough ⊢
      rw [read, readHead_head _ (by decide) fitting.1]
      simp [read_write content rest fuel fitting.2 (by omega)]
  | bool value =>
      cases value <;> rfl
  | null => rfl
  | float bits =>
      simp only [fits, decide_eq_true_eq] at fitting
      have headed : readHead (0xFB :: (toBeBytes 8 bits ++ rest)) = some (⟨7, 27, bits⟩, rest) := by
        simp only [readHead, List.length_append, toBeBytes_length]
        rw [take_toBeBytes rest (by omega), drop_toBeBytes]
        simp
      rw [write, List.cons_append, read, headed]
      rfl

theorem readItems_write (items : List Value) (rest : Bytes) (fuel : Nat)
    (fitting : fitsItems items = true) (enough : 2 * (writeItems items).length ≤ fuel) :
    readItems fuel items.length (writeItems items ++ rest) = some (items, rest) := by
  cases items with
  | nil => simp [writeItems, readItems]
  | cons item items =>
      simp only [fitsItems, Bool.and_eq_true] at fitting
      have positive := write_length_pos item
      simp only [writeItems, List.length_append] at enough
      obtain ⟨fuel, rfl⟩ : ∃ less, fuel = less + 1 := ⟨fuel - 1, by omega⟩
      simp only [writeItems, List.length_cons, List.append_assoc, readItems]
      rw [read_write item _ fuel fitting.1 (by omega)]
      simp [readItems_write items rest fuel fitting.2 (by omega)]

theorem readEntries_write (entries : List (Value × Value)) (rest : Bytes) (fuel : Nat)
    (fitting : fitsEntries entries = true) (enough : 2 * (writeEntries entries).length ≤ fuel) :
    readEntries fuel entries.length (writeEntries entries ++ rest) = some (entries, rest) := by
  match entries with
  | [] => simp [writeEntries, readEntries]
  | (key, value) :: entries =>
      simp only [fitsEntries, Bool.and_eq_true] at fitting
      have keyPositive := write_length_pos key
      simp only [writeEntries, List.length_append] at enough
      obtain ⟨fuel, rfl⟩ : ∃ less, fuel = less + 1 := ⟨fuel - 1, by omega⟩
      simp only [writeEntries, List.length_cons, List.append_assoc, readEntries]
      rw [read_write key _ fuel fitting.1.1 (by omega)]
      simp only [Option.bind_eq_bind, Option.bind_some]
      rw [read_write value _ fuel fitting.1.2 (by omega)]
      simp [readEntries_write entries rest fuel fitting.2 (by omega)]

end

theorem decode_encode {value : Value} {bytes : Bytes} (encoded : encode value = some bytes) :
    decode bytes = some value := by
  unfold encode at encoded
  split_ifs at encoded with fitting
  obtain rfl := Option.some.inj encoded
  have back := read_write value [] (2 * (write value).length) fitting (by omega)
  rw [List.append_nil] at back
  simp [decode, back]

end RoundTrip

end CborFormat

end ViperChain
