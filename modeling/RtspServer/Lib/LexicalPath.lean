/-
  POSIX paths as byte strings, taken lexically: joining, iteration over the names, the normal
  form of an absolute path and the relative path between two of them, as `std::filesystem`
  defines them. No file system is looked at. Names nothing of the server.

  * `names_lexicallyNormal`: the names of a normal form, which are plain ones.
  * `below_or_up`: the relative path between two normal forms starts with `..` unless the first
    one lies below the second.
-/
import RtspServer.Lib.ByteString

namespace LexicalPath

open ByteString

/-- The separator. -/
def slash : UInt8 := 47

def dot : Bytes := [46]

def dotDot : Bytes := [46, 46]

def isAbsolute (p : Bytes) : Bool := p.head? = some slash

/-- `operator/`: an absolute right side replaces the left one. -/
def append (p q : Bytes) : Bytes :=
  if isAbsolute q then q
  else if p = [] ∨ p.getLast? = some slash then p ++ q
  else p ++ slash :: q

/-- The names between the separators; several separators count as one. -/
def names (p : Bytes) : List Bytes := (p.splitOn slash).filter (· ≠ [])

/-- What the iteration over an absolute path yields behind the root directory: an empty name
    comes last when the path ends with a separator. -/
def elements (p : Bytes) : List Bytes :=
  names p ++ if names p ≠ [] ∧ p.getLast? = some slash then [[]] else []

/-! ## The normal form -/

/-- One more name. -/
def enter (dirs : List Bytes) (name : Bytes) : List Bytes :=
  if name = dot then dirs else if name = dotDot then dirs.dropLast else dirs ++ [name]

/-- The last name says that the path is one of a directory. -/
def endsInDir (p : Bytes) : Bool :=
  match (p.splitOn slash).getLast? with
  | none => false
  | some name => name = [] ∨ name = dot ∨ name = dotDot

/-- The absolute path of these names. -/
def absolute (dirs : List Bytes) (dir : Bool) : Bytes :=
  if dirs = [] then [slash] else [slash].intercalate (([] :: dirs) ++ if dir then [[]] else [])

/-- `lexically_normal` of an absolute path. -/
def lexicallyNormal (p : Bytes) : Bytes := absolute ((names p).foldl enter []) (endsInDir p)

/-- A name that does not move. -/
structure Plain (name : Bytes) : Prop where
  ne_nil : name ≠ []
  ne_dot : name ≠ dot
  ne_dotDot : name ≠ dotDot
  not_mem : slash ∉ name

instance (name : Bytes) : Decidable (Plain name) :=
  decidable_of_iff (name ≠ [] ∧ name ≠ dot ∧ name ≠ dotDot ∧ slash ∉ name)
    ⟨fun h => ⟨h.1, h.2.1, h.2.2.1, h.2.2.2⟩, fun h => ⟨h.ne_nil, h.ne_dot, h.ne_dotDot, h.not_mem⟩⟩

theorem not_mem_of_mem_splitOn {p name : Bytes} (h : name ∈ p.splitOn slash) : slash ∉ name := by
  induction p generalizing name with
  | nil =>
      rw [List.splitOn_nil, List.mem_singleton] at h
      rw [h]
      exact List.not_mem_nil
  | cons c p ih =>
      rw [List.splitOn_cons_eq_if_modifyHead] at h
      split at h
      · rcases List.mem_cons.mp h with rfl | h
        · exact List.not_mem_nil
        · exact ih h
      · next hc =>
          have hne : c ≠ slash := fun heq => hc (by rw [heq]; exact beq_self_eq_true slash)
          cases hsplit : p.splitOn slash with
          | nil => exact absurd hsplit (List.splitOn_ne_nil slash p)
          | cons first rest =>
              rw [hsplit, List.modifyHead_cons] at h
              rcases List.mem_cons.mp h with rfl | h
              · intro hmem
                rcases List.mem_cons.mp hmem with heq | hmem
                · exact hne heq.symm
                · exact ih (by rw [hsplit]; exact List.mem_cons_self) hmem
              · exact ih (by rw [hsplit]; exact List.mem_cons_of_mem _ h)

/-- The names so far stay plain. -/
theorem plain_enter {dirs : List Bytes} {name : Bytes} (h : ∀ d ∈ dirs, Plain d) (hne : name ≠ [])
    (hslash : slash ∉ name) : ∀ d ∈ enter dirs name, Plain d := by
  unfold enter
  split
  · exact h
  · next hdot =>
      split
      · exact fun d hd => h d (List.mem_of_mem_dropLast hd)
      · next hdotDot =>
          intro d hd
          rcases List.mem_append.mp hd with hd | hd
          · exact h d hd
          · rw [List.mem_singleton.mp hd]
            exact ⟨hne, hdot, hdotDot, hslash⟩

theorem plain_foldl {l dirs : List Bytes} (h : ∀ d ∈ dirs, Plain d)
    (hl : ∀ name ∈ l, name ≠ [] ∧ slash ∉ name) : ∀ d ∈ l.foldl enter dirs, Plain d := by
  induction l generalizing dirs with
  | nil => exact h
  | cons name l ih =>
      obtain ⟨⟨hne, hslash⟩, hrest⟩ := List.forall_mem_cons.mp hl
      exact ih (plain_enter h hne hslash) hrest

/-- The names that the normal form is made of. -/
theorem plain_dirs (p : Bytes) : ∀ d ∈ (names p).foldl enter [], Plain d := by
  refine plain_foldl (List.forall_mem_nil _) fun name h => ?_
  obtain ⟨hsplit, hne⟩ := List.mem_filter.mp h
  exact ⟨of_decide_eq_true hne, not_mem_of_mem_splitOn hsplit⟩

theorem filter_plain {dirs : List Bytes} (h : ∀ d ∈ dirs, Plain d) :
    dirs.filter (· ≠ []) = dirs :=
  List.filter_eq_self.mpr fun d hd => decide_eq_true (h d hd).ne_nil

/-- A path made of plain names has these names. -/
theorem names_absolute {dirs : List Bytes} (h : ∀ d ∈ dirs, Plain d) (dir : Bool) :
    names (absolute dirs dir) = dirs := by
  unfold absolute
  split
  · next hnil =>
      rw [hnil]
      decide
  · have hslash : ∀ l ∈ ([] :: dirs) ++ (if dir then [[]] else []), slash ∉ l := by
      intro l hl
      rcases List.mem_append.mp hl with hl | hl
      · rcases List.mem_cons.mp hl with rfl | hl
        · exact List.not_mem_nil
        · exact (h l hl).not_mem
      · have hnil : l = [] := by
          cases dir
          · cases hl
          · exact List.mem_singleton.mp hl
        rw [hnil]
        exact List.not_mem_nil
    unfold names
    rw [List.splitOn_intercalate slash hslash (by simp), List.filter_append, List.filter_cons]
    cases dir
    · simpa using fun d hd => (h d hd).ne_nil
    · simpa using fun d hd => (h d hd).ne_nil

theorem names_lexicallyNormal (p : Bytes) :
    names (lexicallyNormal p) = (names p).foldl enter [] :=
  names_absolute (plain_dirs p) _

theorem isAbsolute_lexicallyNormal (p : Bytes) : isAbsolute (lexicallyNormal p) = true := by
  unfold lexicallyNormal absolute
  split
  · rfl
  · next hne =>
      cases hdirs : (names p).foldl enter [] with
      | nil => exact absurd hdirs hne
      | cons d dirs =>
          rw [List.cons_append, List.cons_append, List.intercalate_cons_cons]
          rfl

/-! ## The relative path -/

/-- Both lists without their common beginning. -/
def afterCommon : List Bytes → List Bytes → List Bytes × List Bytes
  | x :: xs, y :: ys => if x = y then afterCommon xs ys else (x :: xs, y :: ys)
  | xs, ys => (xs, ys)

/-- How many levels these names lead down. -/
def depth (l : List Bytes) : Int :=
  (l.filter fun e => e ≠ [] ∧ e ≠ dot ∧ e ≠ dotDot).length - (l.filter (· = dotDot)).length

/-- `p.lexically_relative(base)`. -/
def lexicallyRelative (p base : Bytes) : Bytes :=
  if isAbsolute p ≠ isAbsolute base then []
  else
    let (a, b) := afterCommon (elements p) (elements base)
    if a = [] ∧ b = [] then dot
    else if depth b < 0 then []
    else if depth b = 0 ∧ (a = [] ∨ a.head? = some []) then dot
    else [slash].intercalate (List.replicate (depth b).toNat dotDot ++ a)

theorem afterCommon_spec (xs ys : List Bytes) :
    ∃ c, xs = c ++ (afterCommon xs ys).1 ∧ ys = c ++ (afterCommon xs ys).2 := by
  induction xs generalizing ys with
  | nil => exact ⟨[], by cases ys <;> rfl, by cases ys <;> rfl⟩
  | cons x xs ih =>
      cases ys with
      | nil => exact ⟨[], rfl, rfl⟩
      | cons y ys =>
          rw [afterCommon]
          split
          · next heq =>
              obtain ⟨c, hxs, hys⟩ := ih ys
              refine ⟨x :: c, ?_, ?_⟩
              · rw [List.cons_append, ← hxs]
              · rw [List.cons_append, ← hys, heq]
          · exact ⟨[], rfl, rfl⟩

theorem filter_elements {p : Bytes} (h : ∀ d ∈ names p, Plain d) :
    (elements p).filter (· ≠ []) = names p := by
  unfold elements
  rw [List.filter_append, filter_plain h]
  split <;> simp

/-- Names of a normal form lead down by each of them. -/
theorem depth_plain {l : List Bytes} (h : ∀ e ∈ l, e ≠ dot ∧ e ≠ dotDot) :
    depth l = (l.filter (· ≠ [])).length := by
  have hup : l.filter (· = dotDot) = [] := by
    refine List.filter_eq_nil_iff.mpr fun e he => ?_
    simpa using (h e he).2
  have hdown : (l.filter fun e => e ≠ [] ∧ e ≠ dot ∧ e ≠ dotDot) = l.filter (· ≠ []) := by
    refine List.filter_congr fun e he => ?_
    simp [(h e he).1, (h e he).2]
  unfold depth
  rw [hup, hdown]
  simp

/-- The first name of a path. -/
def firstName (p : Bytes) : Bytes := p.takeWhile (· ≠ slash)

theorem firstName_up (n : Nat) (a : List Bytes) :
    firstName ([slash].intercalate (List.replicate (n + 1) dotDot ++ a)) = dotDot := by
  rw [List.replicate_succ, List.cons_append]
  cases hrest : List.replicate n dotDot ++ a with
  | nil => decide
  | cons e l =>
      rw [List.intercalate_cons_cons]
      rfl

/-- **The relative path between two normal forms goes up first**, unless the one lies below the
    other, name by name. -/
theorem below_or_up (p base : Bytes) :
    names (lexicallyNormal base) <+: names (lexicallyNormal p) ∨
      firstName (lexicallyRelative (lexicallyNormal p) (lexicallyNormal base)) = dotDot := by
  have hp : ∀ d ∈ names (lexicallyNormal p), Plain d := by
    rw [names_lexicallyNormal]
    exact plain_dirs p
  have hbase : ∀ d ∈ names (lexicallyNormal base), Plain d := by
    rw [names_lexicallyNormal]
    exact plain_dirs base
  obtain ⟨c, ha, hb⟩ := afterCommon_spec (elements (lexicallyNormal p))
    (elements (lexicallyNormal base))
  unfold lexicallyRelative
  rw [isAbsolute_lexicallyNormal, isAbsolute_lexicallyNormal, if_neg (fun h => h rfl)]
  generalize afterCommon (elements (lexicallyNormal p)) (elements (lexicallyNormal base)) = r
    at ha hb
  obtain ⟨a, b⟩ := r
  dsimp only at ha hb ⊢
  by_cases hrest : b.filter (· ≠ []) = []
  · -- the base has no name of its own
    left
    refine ⟨a.filter (· ≠ []), ?_⟩
    rw [← filter_elements hp, ← filter_elements hbase, ha, hb, List.filter_append,
      List.filter_append, hrest, List.append_nil]
  · right
    have hmoves : ∀ e ∈ b, e ≠ dot ∧ e ≠ dotDot := by
      intro e he
      have hmem : e ∈ elements (lexicallyNormal base) := by
        rw [hb]
        exact List.mem_append_right c he
      unfold elements at hmem
      rcases List.mem_append.mp hmem with hmem | hmem
      · exact ⟨(hbase e hmem).ne_dot, (hbase e hmem).ne_dotDot⟩
      · have hnil : e = [] := by
          split at hmem
          · exact List.mem_singleton.mp hmem
          · cases hmem
        rw [hnil]
        decide
    obtain ⟨n, hn⟩ : ∃ n, (b.filter (· ≠ [])).length = n + 1 :=
      Nat.exists_eq_succ_of_ne_zero fun hzero => hrest (List.length_eq_zero_iff.mp hzero)
    have hdepth : depth b = (n + 1 : Nat) := by rw [depth_plain hmoves, hn]
    have hb' : b ≠ [] := fun hnil => hrest (by rw [hnil]; rfl)
    rw [if_neg (fun h => hb' h.2), hdepth, if_neg (by omega), if_neg (by omega), Int.toNat_natCast]
    exact firstName_up n a

end LexicalPath
