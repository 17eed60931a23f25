import Fib.Library.Bytes
import Mathlib.Data.List.TakeWhile

/-!
# Lines that end in CRLF, and fields within them

A block of fields is a sequence of lines `name: value`, each ended by CRLF,
with an empty line after the last.  A reader splits the bytes at the first
CRLF it meets and a line at its first colon, so a block reads back as the
fields it was written from exactly when no name or value holds a CRLF and no
name holds a colon.
-/

namespace Fib
namespace Lines

def crlf : Bytes := [13, 10]

/-- The byte that ends a field's name. -/
def colon : UInt8 := 58

/-- A carriage return directly followed by a line feed. -/
def hasCrlf : Bytes -> Bool
  | [] => false
  | [_] => false
  | first :: second :: rest =>
    (first == 13 && second == 10) || hasCrlf (second :: rest)

@[simp] theorem hasCrlf_nil : hasCrlf [] = false := rfl

@[simp] theorem hasCrlf_singleton (byte : UInt8) :
    hasCrlf [byte] = false := rfl

theorem hasCrlf_cons_cons
    (first second : UInt8)
    (rest : Bytes) :
    hasCrlf (first :: second :: rest) =
      ((first == 13 && second == 10) || hasCrlf (second :: rest)) := rfl

/-- A CRLF of a concatenation lies in one part or across the seam. -/
theorem hasCrlf_append (left right : Bytes) :
    hasCrlf (left ++ right) = (hasCrlf left || hasCrlf right ||
        (left.getLast? == some 13 && right.head? == some 10)) := by
  induction left with
  | nil => simp
  | cons first rest ih =>
    cases rest with
    | nil =>
      cases right with
      | nil => simp
      | cons second right =>
        simp only [List.cons_append, List.nil_append,
          hasCrlf_cons_cons, hasCrlf_singleton, Bool.false_or,
          List.getLast?_singleton, List.head?_cons]
        rw [Bool.or_comm]
        simp [Option.some_beq_some]
    | cons second rest =>
      rw [List.cons_append, List.cons_append, hasCrlf_cons_cons,
        ← List.cons_append, ih, hasCrlf_cons_cons,
        List.getLast?_cons_cons]
      simp only [Bool.or_assoc]

/-- A part of a line holds no CRLF. -/
theorem hasCrlf_of_infix
    (part : piece <:+: line)
    (clean : hasCrlf line = false) :
    hasCrlf piece = false := by
  obtain ⟨before, after, rfl⟩ := part
  simp only [hasCrlf_append, Bool.or_eq_false_iff] at clean
  exact clean.1.1.1.2

theorem hasCrlf_eq_false_of_forall (visible : ∀ byte ∈ bytes, byte ≠ 13) :
    hasCrlf bytes = false := by
  induction bytes with
  | nil => rfl
  | cons first rest ih =>
    cases rest with
    | nil => rfl
    | cons second rest =>
      have notReturn := visible first List.mem_cons_self
      rw [hasCrlf_cons_cons, ih fun byte present => visible byte (List.mem_cons_of_mem _ present)]
      simp [notReturn]

/-- Texts joined by a separator that completes no CRLF hold one exactly when
one of them does. -/
theorem hasCrlf_intercalate
    (clean : hasCrlf separator = false)
    (headNe : separator.head? ≠ some 10)
    (lastNe : separator.getLast? ≠ some 13)
    (nonempty : separator ≠ [])
    (texts : List Bytes) :
    hasCrlf (separator.intercalate texts) = texts.any hasCrlf := by
  induction texts with
  | nil => rfl
  | cons text texts ih =>
    cases texts with
    | nil => simp [List.intercalate]
    | cons next texts =>
      have split : separator.intercalate (text :: next :: texts) =
          text ++ (separator ++ separator.intercalate (next :: texts)) := by
        simp [List.intercalate]
      have first : (separator ++ separator.intercalate (next :: texts)).head? =
            separator.head? := by
        cases separator with
        | nil => exact absurd rfl nonempty
        | cons byte rest => rfl
      rw [split, hasCrlf_append, hasCrlf_append, ih,
        first, clean, beq_false_of_ne headNe,
        beq_false_of_ne lastNe]
      simp

/-- Split the bytes at the first CRLF. -/
def readLine : Bytes -> Option (Bytes × Bytes)
  | [] => none
  | [_] => none
  | first :: second :: rest =>
    if first = 13 ∧ second = 10 then
      some ([], rest)
    else
      (readLine (second :: rest)).map fun (line, left) =>
        (first :: line, left)

theorem readLine_append
    (clean : hasCrlf line = false)
    (rest : Bytes) :
    readLine (line ++ crlf ++ rest) = some (line, rest) := by
  induction line with
  | nil => simp [readLine, crlf]
  | cons first line ih =>
    cases line with
    | nil => simp [readLine, crlf]
    | cons second line =>
      rw [hasCrlf_cons_cons, Bool.or_eq_false_iff] at clean
      have notHere : ¬(first = 13 ∧ second = 10) := by
        simpa using clean.1
      have later := ih clean.2
      simp only [List.cons_append] at later ⊢
      rw [readLine, if_neg notHere, later]
      rfl

/-! ## Fields -/

/-- Split a line at its first colon and drop the blank after it. -/
def parseField (line : Bytes) : Option (Bytes × Bytes) :=
  match line.dropWhile (· != colon) with
  | [] => none
  | _ :: value =>
    some (line.takeWhile (· != colon),
      if value.head? = some 32 then value.tail else value)

/-- A line that carries a field. -/
def fieldLine (field : Bytes × Bytes) : Bytes :=
  field.1 ++ [colon, 32] ++ field.2

theorem parseField_fieldLine
    (noColon : colon ∉ name)
    (value : Bytes) :
    parseField (fieldLine (name, value)) = some (name, value) := by
  have passes : ∀ byte ∈ name, (byte != colon) = true := by
    intro byte present
    simp only [bne_iff_ne]
    rintro rfl
    exact noColon present
  simp only [parseField, fieldLine, List.append_assoc]
  rw [List.dropWhile_append_of_pos passes, List.takeWhile_append_of_pos passes]
  simp

/-- A line is split into parts of it, the first without a colon. -/
theorem parseField_eq_some
    (parsed : parseField line = some field) :
    colon ∉ field.1 ∧ field.1 <:+: line ∧ field.2 <:+: line := by
  unfold parseField at parsed
  split at parsed
  · cases parsed
  next first left dropped =>
  cases parsed
  refine ⟨fun present => ?_, (List.takeWhile_prefix _).isInfix, ?_⟩
  · simpa using List.mem_takeWhile_imp present
  have value : left <:+ line :=
    (List.suffix_cons first left).trans (dropped ▸ List.dropWhile_suffix _)
  dsimp only
  split
  · exact ((List.tail_suffix left).trans value).isInfix
  · exact value.isInfix

/-- Read fields up to an empty line, given the bytes of the line already
seen. -/
def readFields (line : Bytes) : Bytes -> Option (List (Bytes × Bytes) × Bytes)
  | [] => none
  | [_] => none
  | first :: second :: rest =>
    if first = 13 ∧ second = 10 then
      if line = [] then
        some ([], rest)
      else
        match parseField line, readFields [] rest with
        | some field, some (fields, left) => some (field :: fields, left)
        | _, _ => none
    else
      readFields (line ++ [first]) (second :: rest)

variable {line : Bytes}

theorem readFields_append
    (clean : hasCrlf line = false)
    (seen rest : Bytes) :
    readFields seen (line ++ crlf ++ rest) = readFields (seen ++ line) (crlf ++ rest) := by
  induction line generalizing seen with
  | nil => simp
  | cons first line ih =>
    have cleanLine : hasCrlf line = false := by
      rw [← List.singleton_append, hasCrlf_append] at clean
      simp_all
    rw [List.append_cons, ← ih cleanLine (seen ++ [first])]
    cases line with
    | nil =>
      simp [crlf, readFields]
    | cons second line =>
      have notHere : ¬(first = 13 ∧ second = 10) := by
        rw [hasCrlf_cons_cons] at clean
        simpa using And.left (by simpa using clean)
      simp only [List.cons_append, readFields, notHere, if_false]

theorem readFields_crlf_nil
    (rest : Bytes) :
    readFields [] (crlf ++ rest) = some ([], rest) := by
  simp [readFields, crlf]

theorem readFields_crlf
    (nonempty : line ≠ [])
    (rest : Bytes) :
    readFields line (crlf ++ rest) =
      match parseField line, readFields [] rest with
      | some field, some (fields, left) => some (field :: fields, left)
      | _, _ => none := by
  simp [readFields, crlf, nonempty]

/-- The fields as they are written, each on a line of its own. -/
def fieldLines (fields : List (Bytes × Bytes)) : Bytes :=
  fields.flatMap fun field => fieldLine field ++ crlf

@[simp] theorem fieldLines_nil : fieldLines [] = [] := rfl

@[simp] theorem fieldLines_cons
    (field : Bytes × Bytes)
    (fields : List (Bytes × Bytes)) :
    fieldLines (field :: fields) = fieldLine field ++ crlf ++ fieldLines fields := rfl

theorem fieldLines_append (first second : List (Bytes × Bytes)) :
    fieldLines (first ++ second) = fieldLines first ++ fieldLines second :=
  List.flatMap_append ..

/-- A field whose line reads back as that field. -/
def Legible (field : Bytes × Bytes) : Prop :=
  colon ∉ field.1 ∧ hasCrlf field.1 = false ∧ hasCrlf field.2 = false

instance (field : Bytes × Bytes) : Decidable (Legible field) :=
  inferInstanceAs (Decidable (_ ∧ _))

theorem fieldLine_ne_nil (field : Bytes × Bytes) : fieldLine field ≠ [] := by
  simp [fieldLine]

theorem hasCrlf_fieldLine (field : Bytes × Bytes) :
    hasCrlf (fieldLine field) = (hasCrlf field.1 || hasCrlf field.2) := by
  rw [fieldLine, hasCrlf_append, hasCrlf_append]
  simp [hasCrlf_cons_cons, colon]

theorem Legible.readFields_cons
    (legible : Legible field)
    (rest : Bytes) :
    readFields [] (fieldLine field ++ crlf ++ rest) = (readFields [] rest).map fun (fields, left) =>
        (field :: fields, left) := by
  obtain ⟨noColon, cleanName, cleanValue⟩ := legible
  have clean : hasCrlf (fieldLine field) = false := by
    rw [hasCrlf_fieldLine, cleanName, cleanValue]
    rfl
  rw [readFields_append clean, List.nil_append, readFields_crlf (fieldLine_ne_nil field),
    parseField_fieldLine noColon field.2]
  cases readFields [] rest <;> rfl

/-- Legible fields read back, whatever follows them. -/
theorem readFields_fieldLines
    (legible : ∀ field ∈ fields, Legible field)
    (rest : Bytes) :
    readFields [] (fieldLines fields ++ crlf ++ rest) = some (fields, rest) := by
  induction fields with
  | nil => exact readFields_crlf_nil rest
  | cons field fields ih =>
    rw [List.forall_mem_cons] at legible
    rw [fieldLines_cons, List.append_assoc, List.append_assoc,
      legible.1.readFields_cons, ← List.append_assoc,
      ih legible.2]
    rfl

theorem legible_of_readFields_line
    (read : readFields line bytes = some (fields, left))
    (clean : hasCrlf (line ++ bytes.take 1) = false) :
    ∀ field ∈ fields, Legible field := by
  fun_induction readFields line bytes generalizing fields with
  | case1 | case2 | case5 => cases read
  | case3 =>
    cases read
    simp
  | case4 line first second rest here some field later after readLater parsed ih =>
    cases read
    have cleanLine := hasCrlf_of_infix (List.prefix_append line _).isInfix clean
    obtain ⟨noColon, name, value⟩ := parseField_eq_some parsed
    have legible : Legible field :=
      ⟨noColon, hasCrlf_of_infix name cleanLine, hasCrlf_of_infix value cleanLine⟩
    exact List.forall_mem_cons.mpr ⟨legible, ih readLater (by cases rest <;> rfl)⟩
  | case6 line first second rest notHere ih =>
    refine ih read ?_
    simp only [hasCrlf_append, List.take_succ_cons, List.take_zero] at clean ⊢
    simp_all

/-- Every field that is read is legible, whatever it was read from. -/
theorem legible_of_readFields
    (read : readFields [] bytes = some (fields, left)) :
    ∀ field ∈ fields, Legible field :=
  legible_of_readFields_line read (by cases bytes <;> rfl)

theorem parseField_isSome
    (present : colon ∈ line) :
    (parseField line).isSome = true := by
  unfold parseField
  split
  · next dropped =>
    rw [List.dropWhile_eq_nil_iff] at dropped
    simpa using dropped colon present
  · rfl

/-- Lines without a CRLF inside read back as some fields. -/
theorem exists_readFields
    (clean : ∀ field ∈ fields, hasCrlf (fieldLine field) = false)
    (rest : Bytes) :
    ∃ read, readFields [] (fieldLines fields ++ crlf ++ rest) = some (read, rest) := by
  induction fields with
  | nil => exact ⟨[], readFields_crlf_nil rest⟩
  | cons field fields ih =>
    rw [List.forall_mem_cons] at clean
    obtain ⟨later, read⟩ := ih clean.2
    obtain ⟨parsed, first⟩ := Option.isSome_iff_exists.mp
      (parseField_isSome (by simp [fieldLine] :
        colon ∈ fieldLine field))
    refine ⟨parsed :: later, ?_⟩
    rw [fieldLines_cons, List.append_assoc, List.append_assoc,
      readFields_append clean.1, List.nil_append,
      readFields_crlf (fieldLine_ne_nil field), ← List.append_assoc, first,
      read]

/-! ## Heads -/

/-- A first line, fields and what is left after the empty line. -/
def readHead (bytes : Bytes) :
    Option ((Bytes × List (Bytes × Bytes)) × Bytes) :=
  (readLine bytes).bind fun (line, rest) =>
    (readFields [] rest).map fun (fields, left) => ((line, fields), left)

theorem readHead_append
    (clean : hasCrlf line = false)
    (rest : Bytes) :
    readHead (line ++ crlf ++ rest) = (readFields [] rest).map fun (fields, left) =>
        ((line, fields), left) := by
  rw [readHead, readLine_append clean]
  rfl

end Lines
end Fib
