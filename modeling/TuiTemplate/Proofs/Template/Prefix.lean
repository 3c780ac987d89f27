import TuiTemplate.Proofs.Template.Location

set_option autoImplicit false

namespace TuiTemplate

section blocks

variable {registry : Registry} {parent : Node} {indent : Nat} {sawChild : Bool}
  {lines left : List Line} {outcome : Except CompileError Node}

/-- A block looks at no line behind the first that it leaves. -/
theorem Reads.of_same_next (reads : Reads registry parent indent sawChild lines outcome left) :
    ∃ taken, lines = taken ++ left ∧ ∀ other, other.head? = left.head? →
      Reads registry parent indent sawChild (taken ++ other) outcome other := by
  induction reads with
  | finish parent indent sawChild =>
      refine ⟨[], rfl, fun other next => ?_⟩
      rw [List.head?_eq_none_iff.mp next]
      exact .finish parent indent sawChild
  | dedent shallower aligned =>
      refine ⟨[], rfl, fun other next => ?_⟩
      obtain ⟨after, rfl⟩ := List.head?_eq_some_iff.mp next
      exact .dedent shallower aligned
  | offStep shallower unaligned =>
      refine ⟨[], rfl, fun other next => ?_⟩
      obtain ⟨after, rfl⟩ := List.head?_eq_some_iff.mp next
      exact .offStep shallower unaligned
  | tooDeep deeper =>
      refine ⟨[], rfl, fun other next => ?_⟩
      obtain ⟨after, rfl⟩ := List.head?_eq_some_iff.mp next
      exact .tooDeep deeper
  | @unresolved parent indent sawChild line rest reason level declares failed =>
      exact ⟨[line], rfl, fun other _ => .unresolved level declares failed⟩
  | @brokenChild parent node indent sawChild line rest left reason level declares resolved inner
      innerIh =>
      obtain ⟨nested, rfl, same⟩ := innerIh
      exact ⟨line :: nested, rfl, fun other next =>
        .brokenChild level declares resolved (same other next)⟩
  | @refusedChild parent node child indent sawChild line rest left reason level declares resolved
      inner refused innerIh =>
      obtain ⟨nested, rfl, same⟩ := innerIh
      exact ⟨line :: nested, rfl, fun other next =>
        .refusedChild level declares resolved (same other next) refused⟩
  | @child parent node child grown indent sawChild line rest left final outcome level declares
      resolved inner accepted later innerIh laterIh =>
      obtain ⟨nested, rfl, sameInside⟩ := innerIh
      obtain ⟨after, rfl, same⟩ := laterIh
      refine ⟨line :: (nested ++ after), by simp, fun other next => ?_⟩
      have nextInside : (after ++ other).head? = (after ++ final).head? := by
        rw [List.head?_append, List.head?_append, next]
      rw [List.cons_append, List.append_assoc]
      exact .child level declares resolved (sameInside _ nextInside) accepted (same other next)
  | @lateSetting parent indent line rest level sets =>
      exact ⟨[line], rfl, fun other _ => .lateSetting level sets⟩
  | @refusedSetting parent indent line rest reason level sets refused =>
      exact ⟨[line], rfl, fun other _ => .refusedSetting level sets refused⟩
  | @setting parent grown indent line rest final outcome level sets accepted later laterIh =>
      obtain ⟨after, rfl, same⟩ := laterIh
      exact ⟨line :: after, rfl, fun other next => .setting level sets accepted (same other next)⟩
  | @stray parent indent sawChild line rest level noDeclaration noAttribute =>
      exact ⟨[line], rfl, fun other _ => .stray level noDeclaration noAttribute⟩

/-- What a block does before its lines go on does not depend on how far they go on. -/
theorem Reads.of_prefix {nested after rest : List Line} {next : Line}
    (reads : Reads registry parent indent sawChild (nested ++ (after ++ left)) outcome
      (after ++ left))
    (begins : next :: rest <+: after) :
    Reads registry parent indent sawChild (nested ++ next :: rest) outcome (next :: rest) := by
  obtain ⟨taken, spelled, same⟩ := reads.of_same_next
  obtain ⟨more, rfl⟩ := begins
  rw [List.append_cancel_right spelled]
  exact same _ rfl

/-- Lists that agree up to the item after some first ones share these and the next. -/
theorem exists_append_of_take_eq {α : Type} {taken left other : List α}
    (agrees : other.take (taken.length + 1) = (taken ++ left).take (taken.length + 1)) :
    ∃ rest, other = taken ++ rest ∧ rest.head? = left.head? := by
  refine ⟨other.drop taken.length, ?_, ?_⟩
  · have front := congrArg (List.take taken.length) agrees
    rw [List.take_take, List.take_take, Nat.min_eq_left (Nat.le_succ _), List.take_left] at front
    calc
      other = other.take taken.length ++ other.drop taken.length :=
        (List.take_append_drop _ _).symm
      _ = taken ++ other.drop taken.length := by rw [front]
  · have next := congrArg (fun items => items[taken.length]?) agrees
    simp only [List.getElem?_take_of_succ] at next
    rw [List.head?_drop, next, List.getElem?_append_right (Nat.le_refl _), Nat.sub_self,
      List.head?_eq_getElem?]

theorem prefix_append_cases {α : Type} {front first second : List α}
    (begins : front <+: first ++ second) :
    front <+: first ∨ ∃ head rest, front = first ++ head :: rest ∧ head :: rest <+: second := by
  rcases List.prefix_or_prefix_of_prefix begins (List.prefix_append first second) with within | past
  · exact .inl within
  · obtain ⟨more, rfl⟩ := past
    cases more with
    | nil =>
        rw [List.append_nil]
        exact .inl List.prefix_rfl
    | cons head rest => exact .inr ⟨head, rest, rfl, (List.prefix_append_right_inj first).mp begins⟩

/-- A block that is read without a fault is closed wherever its lines end. -/
theorem Reads.closed_of_prefix (reads : Reads registry parent indent sawChild lines outcome left)
    {tree : Node} (success : outcome = .ok tree) :
    ∃ taken, lines = taken ++ left ∧ ∀ front, front <+: taken →
      ∃ part, Reads registry parent indent sawChild front (.ok part) [] := by
  induction reads generalizing tree with
  | finish parent indent sawChild =>
      refine ⟨[], rfl, fun front begins => ⟨parent, ?_⟩⟩
      rw [List.prefix_nil.mp begins]
      exact .finish parent indent sawChild
  | @dedent parent indent sawChild line rest shallower aligned =>
      refine ⟨[], rfl, fun front begins => ⟨parent, ?_⟩⟩
      rw [List.prefix_nil.mp begins]
      exact .finish parent indent sawChild
  | @child parent node child grown indent sawChild line rest left final outcome level declares
      resolved inner accepted later innerIh laterIh =>
      obtain ⟨nested, rfl, innerCloses⟩ := innerIh rfl
      obtain ⟨after, rfl, laterCloses⟩ := laterIh success
      refine ⟨line :: (nested ++ after), by simp, fun front begins => ?_⟩
      rcases List.prefix_cons_iff.mp begins with rfl | ⟨front, rfl, below⟩
      · exact ⟨parent, .finish parent indent sawChild⟩
      · rcases prefix_append_cases below with inside | ⟨next, rest, rfl, past⟩
        · obtain ⟨part, closed⟩ := innerCloses front inside
          obtain ⟨again, takes⟩ := Node.exists_acceptChild accepted part (some line.number)
          exact ⟨again, .child level declares resolved closed takes (.finish again indent true)⟩
        · obtain ⟨part, closed⟩ := laterCloses _ past
          exact ⟨part, .child level declares resolved (inner.of_prefix past) accepted closed⟩
  | @setting parent grown indent line rest final outcome level sets accepted later laterIh =>
      obtain ⟨after, rfl, laterCloses⟩ := laterIh success
      refine ⟨line :: after, rfl, fun front begins => ?_⟩
      rcases List.prefix_cons_iff.mp begins with rfl | ⟨front, rfl, below⟩
      · exact ⟨parent, .finish parent indent false⟩
      · obtain ⟨part, closed⟩ := laterCloses front below
        exact ⟨part, .setting level sets accepted closed⟩
  | _ => cases success

/-- What comes of a block whose lines end before a fault is met: it is closed, unless a leaf in it
refuses a child. -/
def ClosesOrRefuses (registry : Registry) (parent : Node) (indent : Nat) (sawChild : Bool)
    (front : List Line) : Prop :=
  (∃ part, Reads registry parent indent sawChild front (.ok part) []) ∨
    ∃ error kind left, error.fault = .childUnderLeaf kind ∧
      Reads registry parent indent sawChild front (.error (.malformed error)) left

theorem ClosesOrRefuses.nil : ClosesOrRefuses registry parent indent sawChild [] :=
  .inl ⟨parent, .finish parent indent sawChild⟩

/-- What comes before the lines of a block does not change how they end. -/
theorem ClosesOrRefuses.lift {before : Node} {outer : Nat} {saw : Bool} {front whole : List Line}
    (ends : ClosesOrRefuses registry parent indent sawChild front)
    (reading : ∀ {outcome left}, Reads registry parent indent sawChild front outcome left →
      Reads registry before outer saw whole outcome left) :
    ClosesOrRefuses registry before outer saw whole := by
  rcases ends with ⟨part, closed⟩ | ⟨error, kind, left, fault, refused⟩
  · exact .inl ⟨part, reading closed⟩
  · exact .inr ⟨error, kind, left, fault, reading refused⟩

/-- Where the lines of a child end early, those of its parent do. -/
theorem ClosesOrRefuses.of_child {node : Node} {line : Line} {front : List Line}
    (level : line.indent = indent) (declares : isDeclaration line.text = true)
    (resolved : registry.resolve (declaredKind line.text) (some line.number) = .ok node)
    (inner : ClosesOrRefuses registry node (indent + indentStep) false front) :
    ClosesOrRefuses registry parent indent sawChild (line :: front) := by
  rcases inner with ⟨part, closed⟩ | ⟨error, kind, left, fault, refused⟩
  · cases taken : parent.acceptChild part (some line.number) with
    | ok grown =>
        exact .inl ⟨grown, .child level declares resolved closed taken (.finish grown indent true)⟩
    | error reason =>
        exact .inr ⟨reason, _, _, (Node.acceptChild_eq_error taken).2.2,
          .refusedChild level declares resolved closed taken⟩
  · exact .inr ⟨error, kind, left, fault, .brokenChild level declares resolved refused⟩

def StoppedByLast : CompileError → Prop
  | .factory _ => True
  | .malformed error => error.fault.place? = some .last

/-- A line that stops reading is needed for that. -/
theorem ClosesOrRefuses.of_stopped {reason : CompileError} (stops : StoppedByLast reason)
    {line : Line} {front : List Line} (begins : front <+: [line])
    (settled : front = [line] → ¬ StoppedByLast reason) :
    ClosesOrRefuses registry parent indent sawChild front := by
  rcases List.prefix_cons_iff.mp begins with rfl | ⟨rest, rfl, below⟩
  · exact .nil
  · rw [List.prefix_nil.mp below] at settled
    exact absurd stops (settled rfl)

/-- A block in which a fault is met meets none if its lines end before. -/
theorem Reads.closes_of_prefix (reads : Reads registry parent indent sawChild lines outcome left)
    {reason : CompileError} (failed : outcome = .error reason) :
    ∃ taken, lines = taken ++ left ∧ ∀ front, front <+: taken →
      (front = taken → ¬ StoppedByLast reason) →
        ClosesOrRefuses registry parent indent sawChild front := by
  induction reads with
  | finish parent indent sawChild => cases failed
  | dedent shallower aligned => cases failed
  | offStep shallower unaligned =>
      refine ⟨[], rfl, fun front begins _ => ?_⟩
      rw [List.prefix_nil.mp begins]
      exact .nil
  | tooDeep deeper =>
      refine ⟨[], rfl, fun front begins _ => ?_⟩
      rw [List.prefix_nil.mp begins]
      exact .nil
  | @unresolved parent indent sawChild line rest unknown level declares unresolved =>
      have stops : StoppedByLast reason := by
        cases failed
        rcases Registry.resolve_eq_error unresolved with rfl | ⟨_, _, _, _, rfl⟩
        · rfl
        · trivial
      exact ⟨[line], rfl, fun front => .of_stopped stops⟩
  | @brokenChild parent node indent sawChild line rest left found level declares resolved inner
      innerIh =>
      obtain ⟨nested, rfl, closes⟩ := innerIh failed
      refine ⟨line :: nested, rfl, fun front begins settled => ?_⟩
      rcases List.prefix_cons_iff.mp begins with rfl | ⟨front, rfl, below⟩
      · exact .nil
      · exact .of_child level declares resolved
          (closes front below fun same => settled (by rw [same]))
  | @refusedChild parent node child indent sawChild line rest left refusal level declares resolved
      inner refused innerIh =>
      obtain ⟨nested, rfl, closed⟩ := inner.closed_of_prefix rfl
      refine ⟨line :: nested, rfl, fun front begins _ => ?_⟩
      rcases List.prefix_cons_iff.mp begins with rfl | ⟨front, rfl, below⟩
      · exact .nil
      · exact .of_child level declares resolved (.inl (closed front below))
  | @child parent node child grown indent sawChild line rest left final outcome level declares
      resolved inner accepted later innerIh laterIh =>
      obtain ⟨nested, rfl, closed⟩ := inner.closed_of_prefix rfl
      obtain ⟨after, rfl, closes⟩ := laterIh failed
      refine ⟨line :: (nested ++ after), by simp, fun front begins settled => ?_⟩
      rcases List.prefix_cons_iff.mp begins with rfl | ⟨front, rfl, below⟩
      · exact .nil
      · rcases prefix_append_cases below with inside | ⟨next, rest, rfl, past⟩
        · exact .of_child level declares resolved (.inl (closed front inside))
        · have before := inner.of_prefix past
          exact (closes _ past fun same => settled (by rw [same])).lift fun reads =>
            .child level declares resolved before accepted reads
  | @lateSetting parent indent line rest level sets =>
      cases failed
      have stops : StoppedByLast (line.fault .lateAttribute) := rfl
      exact ⟨[line], rfl, fun front => .of_stopped stops⟩
  | @refusedSetting parent indent line rest refusal level sets refused =>
      have stops : StoppedByLast reason := by
        cases failed
        obtain ⟨-, -, unknown | ⟨allowed, invalid⟩⟩ := Node.acceptAttribute_eq_error refused
        · rw [StoppedByLast, unknown]
          rfl
        · rw [StoppedByLast, invalid]
          rfl
      exact ⟨[line], rfl, fun front => .of_stopped stops⟩
  | @setting parent grown indent line rest final outcome level sets accepted later laterIh =>
      obtain ⟨after, rfl, closes⟩ := laterIh failed
      refine ⟨line :: after, rfl, fun front begins settled => ?_⟩
      rcases List.prefix_cons_iff.mp begins with rfl | ⟨front, rfl, below⟩
      · exact .nil
      · exact (closes front below fun same => settled (by rw [same])).lift fun reads =>
          .setting level sets accepted reads
  | @stray parent indent sawChild line rest level noDeclaration noAttribute =>
      cases failed
      have stops : StoppedByLast (line.fault .notInBlock) := rfl
      exact ⟨[line], rfl, fun front => .of_stopped stops⟩

end blocks

namespace CompileError

/-- The error without the list of roots, which is the only part that tells of later lines. -/
def withoutRoots : CompileError → CompileError
  | .malformed ⟨line, text, .manyRoots _⟩ => .malformed ⟨line, text, .manyRoots []⟩
  | reason => reason

end CompileError

section documents

variable {registry : Registry} {lines left : List Line} {outcome : Except CompileError Node}

theorem mapError_afterRoot_of_same_next {root : Node} {other : List Line}
    (next : other.head? = left.head?) :
    (afterRoot root other).mapError CompileError.withoutRoots =
      (afterRoot root left).mapError CompileError.withoutRoots := by
  cases left with
  | nil => rw [List.head?_eq_none_iff.mp next]
  | cons line rest =>
      obtain ⟨after, rfl⟩ := List.head?_eq_some_iff.mp next
      simp only [afterRoot]
      split <;> rfl

/-- But for a list of roots, a document looks at no line behind the first that it leaves. -/
theorem ReadsDocument.of_same_next (reads : ReadsDocument registry lines outcome left) :
    ∃ taken, lines = taken ++ left ∧ ∀ other, other.head? = left.head? →
      ∃ again, ReadsDocument registry (taken ++ other) again other ∧
        again.mapError CompileError.withoutRoots = outcome.mapError CompileError.withoutRoots := by
  cases reads with
  | noLine =>
      refine ⟨[], rfl, fun other next => ?_⟩
      rw [List.head?_eq_none_iff.mp next]
      exact ⟨_, .noLine, rfl⟩
  | indented deeper =>
      refine ⟨[], rfl, fun other next => ?_⟩
      obtain ⟨after, rfl⟩ := List.head?_eq_some_iff.mp next
      exact ⟨_, .indented deeper, rfl⟩
  | @undeclared line rest level noDeclaration =>
      exact ⟨[line], rfl, fun other _ => ⟨_, .undeclared level noDeclaration, rfl⟩⟩
  | @unresolved line rest reason level declares failed =>
      exact ⟨[line], rfl, fun other _ => ⟨_, .unresolved level declares failed, rfl⟩⟩
  | @notContainer line rest node level declares resolved refused =>
      exact ⟨[line], rfl, fun other _ => ⟨_, .notContainer level declares resolved refused, rfl⟩⟩
  | @brokenRoot line rest left node reason level declares resolved container block =>
      obtain ⟨taken, rfl, same⟩ := block.of_same_next
      exact ⟨line :: taken, rfl, fun other next =>
        ⟨_, .brokenRoot level declares resolved container (same other next), rfl⟩⟩
  | @root line rest left node root level declares resolved container block =>
      obtain ⟨taken, rfl, same⟩ := block.of_same_next
      exact ⟨line :: taken, rfl, fun other next =>
        ⟨_, .root level declares resolved container (same other next),
          mapError_afterRoot_of_same_next next⟩⟩

/-- A document that is read without a fault is read wherever its lines end. -/
theorem ReadsDocument.read_of_prefix (reads : ReadsDocument registry lines outcome left)
    {tree : Node} (success : outcome = .ok tree) {front : List Line} (begins : front <+: lines)
    (filled : front ≠ []) : ∃ part, ReadsDocument registry front (.ok part) [] := by
  cases reads with
  | @root line rest left node root level declares resolved container block =>
      obtain ⟨rfl, rfl⟩ := afterRoot_eq_ok_iff.mp success
      obtain ⟨taken, rfl, closed⟩ := block.closed_of_prefix rfl
      obtain ⟨front, rfl, below⟩ := (List.prefix_cons_iff.mp begins).resolve_left filled
      rw [List.append_nil] at below
      obtain ⟨part, ends⟩ := closed front below
      exact ⟨part, .root level declares resolved container ends⟩
  | _ => cases success

/-- Where the block of the root ends early, the document does. -/
theorem ClosesOrRefuses.document {line : Line} {front : List Line} {node : Node}
    (level : line.indent = 0) (declares : isDeclaration line.text = true)
    (resolved : registry.resolve (declaredKind line.text) (some line.number) = .ok node)
    (container : registry.isContainer (declaredKind line.text) = true)
    (ends : ClosesOrRefuses registry node indentStep false front) :
    (∃ part, ReadsDocument registry (line :: front) (.ok part) []) ∨
      ∃ refusal kind left, refusal.fault = .childUnderLeaf kind ∧
        ReadsDocument registry (line :: front) (.error (.malformed refusal)) left := by
  rcases ends with ⟨part, closed⟩ | ⟨refusal, kind, left, fault, refused⟩
  · exact .inl ⟨part, .root level declares resolved container closed⟩
  · exact .inr ⟨refusal, kind, left, fault, .brokenRoot level declares resolved container refused⟩

/-- Among lines with different numbers an error names one at most. -/
theorem TemplateError.Names.index_eq {error : TemplateError}
    (distinct : (lines.map Line.number).Nodup) {first second : Nat}
    (here : error.Names lines first) (there : error.Names lines second) : first = second := by
  obtain ⟨line, found, number⟩ := here
  obtain ⟨other, otherFound, otherNumber⟩ := there
  rw [number, Option.some.injEq, Int.natCast_inj] at otherNumber
  have inside : first < (lines.map Line.number).length := by
    rw [List.length_map]
    exact (List.getElem?_eq_some_iff.mp found).1
  apply (List.getElem?_inj inside distinct).mp
  rw [List.getElem?_map, List.getElem?_map, found, otherFound, Option.map_some, Option.map_some,
    otherNumber]

/-- The line at which the error of a block is found is not needed to read the lines before it. -/
theorem Reads.closes_before_error {parent : Node} {indent : Nat} {sawChild : Bool}
    {error : TemplateError}
    (reads : Reads registry parent indent sawChild lines (.error (.malformed error)) left)
    (aligned : indent % indentStep = 0) (noRefusal : ∀ kind, error.fault ≠ .childUnderLeaf kind) :
    ∃ index, error.Names lines index ∧
      ClosesOrRefuses registry parent indent sawChild (lines.take index) := by
  obtain ⟨taken, rfl, place, known, names⟩ := reads.placed aligned rfl
  obtain ⟨before, spelled, closes⟩ := reads.closes_of_prefix rfl
  obtain rfl := List.append_cancel_right spelled
  cases place with
  | next =>
      refine ⟨_, names, ?_⟩
      rw [List.take_left]
      refine closes taken List.prefix_rfl fun _ stopped => ?_
      rw [StoppedByLast, known] at stopped
      cases stopped
  | last =>
      obtain ⟨last, length, names⟩ := names
      refine ⟨last, names, ?_⟩
      rw [List.take_append_of_le_length (by omega)]
      refine closes _ (List.take_prefix _ _) fun same => ?_
      have shorter := congrArg List.length same
      rw [List.length_take] at shorter
      omega
  | opening =>
      cases fault : error.fault <;> rw [fault] at known <;> cases known
      exact absurd fault (noRefusal _)

/-- The lines before the one at which an error is found are read, unless there are none or a leaf
refuses a child. -/
theorem ReadsDocument.read_before_error {error : TemplateError}
    (reads : ReadsDocument registry lines outcome left)
    (failed : outcome = .error (.malformed error))
    (noRefusal : ∀ kind, error.fault ≠ .childUnderLeaf kind)
    (distinct : (lines.map Line.number).Nodup) {index : Nat} (named : error.Names lines index) :
    index = 0 ∨ (∃ part, ReadsDocument registry (lines.take index) (.ok part) []) ∨
      ∃ refusal kind left, refusal.fault = .childUnderLeaf kind ∧
        ReadsDocument registry (lines.take index) (.error (.malformed refusal)) left := by
  -- An error of the first line is named there and nowhere else.
  have atFirst {line : Line} {rest : List Line} (spelled : lines = line :: rest)
      (number : error.line = some (line.number : Int)) : index = 0 := by
    subst spelled
    exact named.index_eq distinct ⟨line, rfl, number⟩
  cases reads with
  | noLine =>
      obtain ⟨line, found, -⟩ := named
      cases found
  | indented deeper =>
      cases failed
      exact .inl (atFirst rfl rfl)
  | undeclared level noDeclaration =>
      cases failed
      exact .inl (atFirst rfl rfl)
  | unresolved level declares unknown =>
      rcases Registry.resolve_eq_error unknown with rfl | ⟨_, _, _, _, rfl⟩
      · cases failed
        exact .inl (atFirst rfl rfl)
      · cases failed
  | notContainer level declares resolved refused =>
      cases failed
      exact .inl (atFirst rfl rfl)
  | @brokenRoot line rest left node reason level declares resolved container block =>
      cases failed
      obtain ⟨before, names, ends⟩ := block.closes_before_error rfl noRefusal
      obtain rfl := named.index_eq distinct (names.append [line])
      rw [List.length_singleton, Nat.add_comm, List.take_succ_cons]
      exact .inr (ends.document level declares resolved container)
  | @root line rest left node root level declares resolved container block =>
      obtain ⟨taken, rfl, closed⟩ := block.closed_of_prefix rfl
      rcases left with _ | ⟨next, after⟩
      · cases failed
      · have number : error.line = some (next.number : Int) := by
          rw [afterRoot] at failed
          split at failed <;> cases failed <;> rfl
        have names : error.Names (line :: (taken ++ next :: after)) (taken.length + 1) := by
          refine ⟨next, ?_, number⟩
          rw [List.getElem?_cons_succ, List.getElem?_append_right (Nat.le_refl _), Nat.sub_self]
          rfl
        obtain rfl := named.index_eq distinct names
        rw [List.take_succ_cons, List.take_left]
        exact .inr (ClosesOrRefuses.document level declares resolved container
          (.inl (closed taken List.prefix_rfl)))

end documents

theorem Line.le_number_of_mem_significant {first : Nat} {raws : List String} :
    ∀ line ∈ significant first raws, first ≤ line.number := by
  induction raws generalizing first with
  | nil => exact List.forall_mem_nil _
  | cons raw rest ih =>
      intro line member
      rcases List.mem_append.mp member with here | later
      · rw [Option.mem_toList, ofRaw?, Option.ite_none_left_eq_some, Option.some.injEq] at here
        exact Nat.le_of_eq (congrArg Line.number here.2)
      · exact Nat.le_of_succ_le (ih line later)

theorem Line.nodup_number_significant (first : Nat) (raws : List String) :
    ((significant first raws).map Line.number).Nodup := by
  induction raws generalizing first with
  | nil => exact List.nodup_nil
  | cons raw rest ih =>
      rw [significant, ofRaw?]
      split
      · exact ih (first + 1)
      · refine List.nodup_cons.mpr ⟨?_, ih (first + 1)⟩
        intro again
        obtain ⟨line, later, same⟩ := List.mem_map.mp again
        have greater := le_number_of_mem_significant line later
        simp only at same
        omega

/-- No two lines of a template have the same number. -/
theorem nodup_number_scan (source : String) : ((scan source).map Line.number).Nodup :=
  Line.nodup_number_significant 1 (Text.splitLines source)

/-- Reading stops at the earliest line that tells of a fault. What comes later than the line after
those that were taken changes nothing, what comes before the line of an error is in order, but for
a leaf that refuses a child, and what comes first in lines that are in order is in order. -/
theorem parse_earliest (registry : Registry) (lines : List Line) :
    (∀ reason, (parse registry lines).outcome = .error reason → ∀ other : List Line,
      other.take ((parse registry lines).position + 1) =
          lines.take ((parse registry lines).position + 1) →
        ∃ again, (parse registry other).outcome = .error again ∧
          again.withoutRoots = reason.withoutRoots ∧
          (parse registry other).position = (parse registry lines).position) ∧
    (∀ error, (parse registry lines).outcome = .error (.malformed error) →
      (∀ kind, error.fault ≠ .childUnderLeaf kind) → (lines.map Line.number).Nodup →
        ∀ index, error.Names lines index →
          (∃ part, (parse registry (lines.take index)).outcome = .ok part) ∨
          (∃ refusal kind, refusal.fault = .childUnderLeaf kind ∧
            (parse registry (lines.take index)).outcome = .error (.malformed refusal)) ∨
          (index = 0 ∧ (parse registry (lines.take index)).outcome = .error (.malformed .noRoot))) ∧
    (∀ tree, (parse registry lines).outcome = .ok tree → ∀ front, front <+: lines → front ≠ [] →
      ∃ part, (parse registry front).outcome = .ok part) := by
  have reads := readsDocument_parse registry lines
  refine ⟨?_, ?_, ?_⟩
  · intro reason failed other agrees
    obtain ⟨taken, spelled, same⟩ := reads.of_same_next
    obtain ⟨before, whole, position⟩ := reads.exists_taken
    obtain rfl := List.append_cancel_right (spelled.symm.trans whole)
    rw [← position] at agrees ⊢
    rw [spelled] at agrees
    obtain ⟨rest, rfl, next⟩ := exists_append_of_take_eq agrees
    obtain ⟨again, readsAgain, alike⟩ := same rest next
    obtain ⟨beforeAgain, wholeAgain, positionAgain⟩ := readsAgain.exists_taken
    rw [← positionAgain, (parse_eq_of_readsDocument readsAgain).1,
      List.append_cancel_right wholeAgain]
    rw [failed] at alike
    cases again with
    | ok tree => cases alike
    | error found => exact ⟨found, rfl, Except.error.inj alike, rfl⟩
  · intro error failed noRefusal distinct index named
    rcases reads.read_before_error failed noRefusal distinct named with
      rfl | ⟨part, before⟩ | ⟨refusal, kind, left, fault, before⟩
    · exact .inr (.inr ⟨rfl, rfl⟩)
    · exact .inl ⟨part, (parse_eq_of_readsDocument before).1⟩
    · exact .inr (.inl ⟨refusal, kind, fault, (parse_eq_of_readsDocument before).1⟩)
  · intro tree success front begins filled
    obtain ⟨part, before⟩ := reads.read_of_prefix success begins filled
    exact ⟨part, (parse_eq_of_readsDocument before).1⟩

/-- A line that fits in no block, below a leaf under a leaf, and a second root. -/
def strayText : String :=
  "Layout:\n    Paragraph:\n        Paragraph:\n            stray\nLayout:"

def strayLines : List Line :=
  [⟨"Layout:", 0, 1, "Layout:"⟩, ⟨"Paragraph:", 4, 2, "    Paragraph:"⟩,
   ⟨"Paragraph:", 8, 3, "        Paragraph:"⟩, ⟨"stray", 12, 4, "            stray"⟩,
   ⟨"Layout:", 0, 5, "Layout:"⟩]

theorem scan_strayText : scan strayText = strayLines := by decide +kernel

def strayError : TemplateError := ⟨some 4, some "            stray", .notInBlock⟩

theorem readsDocument_stray :
    ReadsDocument .builtin strayLines (.error (.malformed strayError))
      [⟨"Layout:", 0, 5, "Layout:"⟩] :=
  have inner : Reads .builtin paragraphWidget 12 false
      [⟨"stray", 12, 4, "            stray"⟩, ⟨"Layout:", 0, 5, "Layout:"⟩]
      (.error (.malformed strayError)) _ :=
    .stray rfl (by decide) (by decide)
  have leaf : Reads .builtin paragraphWidget 8 false _ (.error (.malformed strayError)) _ :=
    .brokenChild rfl (by decide) rfl inner
  .brokenRoot rfl (by decide) rfl rfl (.brokenChild rfl (by decide) rfl leaf)

/-- The stray line is reported whatever follows the second root. Without it, the leaf that has a
child would be. The root with its first leaf is in order, and so is the root alone. -/
theorem parse_earliest_stray :
    (∃ again, (parse .builtin (strayLines ++ strayLines)).outcome = .error again ∧
      again.withoutRoots = .malformed strayError ∧
      (parse .builtin (strayLines ++ strayLines)).position = 4) ∧
    ((∃ part, (parse .builtin (strayLines.take 3)).outcome = .ok part) ∨
      (∃ refusal kind, refusal.fault = .childUnderLeaf kind ∧
        (parse .builtin (strayLines.take 3)).outcome = .error (.malformed refusal)) ∨
      (3 = 0 ∧ (parse .builtin (strayLines.take 3)).outcome = .error (.malformed .noRoot))) ∧
    ∃ part, (parse .builtin (strayLines.take 1)).outcome = .ok part := by
  obtain ⟨outcome, left⟩ := parse_eq_of_readsDocument readsDocument_stray
  have position : (parse .builtin strayLines).position = 4 := by
    rw [Progress.position, left]
    rfl
  obtain ⟨later, before, -⟩ := parse_earliest .builtin strayLines
  have inOrder : (parse .builtin (strayLines.take 2)).outcome = .ok _ :=
    (parse_eq_of_readsDocument (.root rfl (by decide) rfl rfl
      (.child rfl (by decide) rfl (.finish _ _ _) rfl (.finish _ _ _)))).1
  refine ⟨?_, ?_, ?_⟩
  · rw [← position]
    exact later _ outcome _ (by rw [position]; rfl)
  · refine before strayError outcome ?_ ?_ 3 ⟨_, rfl, rfl⟩
    · intro kind underLeaf
      cases underLeaf
    · rw [← scan_strayText]
      exact nodup_number_scan strayText
  · exact (parse_earliest .builtin (strayLines.take 2)).2.2 _ inOrder _ (by decide) (by decide)

end TuiTemplate
