import FederatedLogin.Proofs.Settings.Layers
import FederatedLogin.Settings.Toml.Document
import FederatedLogin.Settings.Variable

/-!
# What documents and variables say is ordered

All names are given to tables by `put`, so the names of every table that a source gives ascend: of a
document (`ordered_parse`), by way of the tree that is built while it is read, and of environment
variables (`ordered_ofVariables`).
-/

namespace FederatedLogin.Settings

/-- Whatever the reader reads is ordered. -/
def ReadsOrdered (r : Reader Entry) : Prop := ∀ cs e rest, r cs = some (e, rest) → e.Ordered

/-- A list counts as ordered, whatever its items are. -/
theorem ordered_list (items : List Entry) : (Entry.list items).Ordered := .single nofun

namespace Toml

/-! ## Scalars -/

/-- A number that fits its word is ordered. -/
theorem ordered_word? {n : Int} {e : Entry} (h : word? n = some e) : e.Ordered := by
  unfold word? at h
  split at h
  · cases h
    exact .single nofun
  · cases h

/-- What is read in another base is ordered. -/
theorem readsOrdered_readBased (base : Nat) : ReadsOrdered (readBased base) := by
  intro cs e rest h
  simp only [readBased, Option.bind_eq_bind, Option.bind_eq_some_iff] at h
  obtain ⟨⟨ds, cs⟩, -, e', he, h⟩ := h
  cases h
  exact ordered_word? he

/-- An integer that is read is ordered. -/
theorem readsOrdered_readInteger : ReadsOrdered readInteger := by
  intro cs e rest h
  unfold readInteger at h
  split at h
  · exact readsOrdered_readBased 16 _ e rest h
  · exact readsOrdered_readBased 8 _ e rest h
  · exact readsOrdered_readBased 2 _ e rest h
  · simp only [Option.bind_eq_bind, Option.bind_eq_some_iff] at h
    obtain ⟨⟨ds, cs⟩, -, e', he, h⟩ := h
    cases h
    exact ordered_word? he

/-- A special number that is read is ordered. -/
theorem readsOrdered_readSpecial : ReadsOrdered readSpecial := by
  intro cs e rest h
  unfold readSpecial at h
  split at h <;> cases h <;> exact .single nofun

/-- A fraction that is read is ordered. -/
theorem readsOrdered_readFraction : ReadsOrdered readFraction := by
  intro cs e rest h
  simp only [readFraction, Option.bind_eq_bind, Option.bind_eq_some_iff] at h
  obtain ⟨_, -, h⟩ := h
  split at h <;>
  · obtain ⟨_, -, h⟩ := Option.bind_eq_some_iff.1 h
    split at h <;> cases h
    exact .single nofun

/-- A date or a time that is read is an ordered table. -/
theorem readsOrdered_readMoment : ReadsOrdered readMoment := by
  intro cs e rest h
  have moment : (Entry.table [(momentName, .text "")]).Ordered :=
    ordered_empty.put _ (.single nofun)
  unfold readMoment at h
  split at h
  · obtain ⟨_, -, h⟩ := Option.map_eq_some_iff.1 h
    cases h
    exact moment
  · split at h
    · split at h
      · split at h
        · cases h
          exact moment
        · obtain ⟨_, -, h⟩ := Option.map_eq_some_iff.1 h
          cases h
          exact moment
      · cases h
        exact moment
    · cases h
      exact moment

/-- Whatever is read as a value without parts is ordered. -/
theorem readsOrdered_readScalar : ReadsOrdered readScalar := by
  intro cs e rest h
  unfold readScalar at h
  split at h
  · cases h
    exact .single nofun
  · cases h
    exact .single nofun
  · rcases Option.or_eq_some_iff.1 h with h | ⟨-, h⟩
    · obtain ⟨_, -, h⟩ := Option.map_eq_some_iff.1 h
      cases h
      exact .single nofun
    · unfold readNumeric at h
      simp only [Option.or_eq_some_iff] at h
      obtain h | ⟨-, h | ⟨-, h | ⟨-, h⟩⟩⟩ := h
      · exact readsOrdered_readMoment _ e rest h
      · exact readsOrdered_readFraction _ e rest h
      · exact readsOrdered_readSpecial _ e rest h
      · exact readsOrdered_readInteger _ e rest h

/-! ## Trees -/

/-- What is read so far has ascending names in the tables that are not in a list. -/
inductive Node.Ordered : Node → Prop where
  | value {e : Entry} (h : e.Ordered) : (Node.value e).Ordered
  | table {origin : Origin} {members : Members} (ascending : Ascending members)
    (inner : ∀ m ∈ members, m.2.Ordered) : (Node.table origin members).Ordered
  | tables (items : List Members) : (Node.tables items).Ordered

/-- The members of a table have ascending names, and so on inside them. -/
def OrderedMembers (members : Members) : Prop :=
  Ascending members ∧ ∀ m ∈ members, m.2.Ordered

variable {members members' : Members} {name : String} {node : Node} {path : List String}

theorem orderedMembers_nil : OrderedMembers [] := ⟨List.Pairwise.nil, nofun⟩

/-- Members stay ordered when an ordered node is put in. -/
theorem OrderedMembers.put (h : OrderedMembers members) (name : String) (hn : node.Ordered) :
    OrderedMembers (put name node members) := by
  refine ⟨h.1.put name node, fun m hm => ?_⟩
  rcases mem_put hm with rfl | hm
  · exact hn
  · exact h.2 m hm

/-- A table among ordered members has ordered members. -/
theorem OrderedMembers.of_lookup {origin : Origin} {inner : Members} (h : OrderedMembers members)
    (found : members.lookup name = some (.table origin inner)) : OrderedMembers inner := by
  cases h.2 _ (mem_of_lookup found) with
  | table ascending inner => exact ⟨ascending, inner⟩

/-- A change of the table at the end of a path keeps names ascending if the change of that table
does. -/
theorem orderedMembers_change {dotted : Bool} {f : Origin → Members → Option Members}
    {origin : Origin}
    (hf : ∀ origin members members', OrderedMembers members → f origin members = some members' →
      OrderedMembers members')
    (h : OrderedMembers members) (changed : change dotted f path origin members = some members') :
    OrderedMembers members' := by
  induction path generalizing origin members members' with
  | nil => exact hf _ _ _ h changed
  | cons name path ih =>
    unfold change at changed
    split at changed
    · -- The name is new, and the table that is made for it starts without members.
      simp only [Option.bind_eq_bind, Option.bind_eq_some_iff] at changed
      obtain ⟨inner, changed, done⟩ := changed
      cases done
      obtain ⟨ascending, inner⟩ := ih orderedMembers_nil changed
      exact h.put name (.table ascending inner)
    · next found =>
      split at changed
      · cases changed
      · simp only [Option.bind_eq_bind, Option.bind_eq_some_iff] at changed
        obtain ⟨inner, changed, done⟩ := changed
        cases done
        obtain ⟨ascending, inner⟩ := ih (h.of_lookup found) changed
        exact h.put name (.table ascending inner)
    · simp only [Option.bind_eq_bind, Option.bind_eq_some_iff] at changed
      obtain ⟨inner, -, done⟩ := changed
      cases done
      exact h.put name (.tables _)
    · cases changed
    · cases changed

/-- A pair that is added at a path leaves the members ordered. -/
theorem orderedMembers_addPair {e : Entry} {origin : Origin} (he : e.Ordered)
    (h : OrderedMembers members) (added : addPair path name e origin members = some members') :
    OrderedMembers members' := by
  refine orderedMembers_change (fun origin members members' h added => ?_) h added
  split at added
  · cases added
  · cases added
    exact h.put name (.value he)

/-- The head of a table leaves the members ordered. -/
theorem orderedMembers_addTable {origin : Origin} (h : OrderedMembers members)
    (added : addTable name origin members = some members') : OrderedMembers members' := by
  unfold addTable at added
  split at added
  · cases added
    exact h.put name (.table List.Pairwise.nil nofun)
  · next found =>
    cases added
    obtain ⟨ascending, inner⟩ := h.of_lookup found
    exact h.put name (.table ascending inner)
  · cases added

/-- The head of a table in a list leaves the members ordered. -/
theorem orderedMembers_addToList {origin : Origin} (h : OrderedMembers members)
    (added : addToList name origin members = some members') : OrderedMembers members' := by
  unfold addToList at added
  split at added
  · cases added
    exact h.put name (.tables _)
  · cases added
    exact h.put name (.tables _)
  · cases added

/-- The members of a document become entries one by one. -/
theorem entries_eq_map (members : Members) :
    entries members = members.map fun m => (m.1, m.2.entry) := by
  induction members with
  | nil => rw [entries]; rfl
  | cons m rest ih => rw [entries, ih]; rfl

/-- An ordered node becomes an ordered entry. -/
theorem Node.Ordered.entry (h : node.Ordered) : node.entry.Ordered := by
  induction h with
  | value h =>
    rw [Node.entry]
    exact h
  | @table origin members ascending inner ih =>
    rw [Node.entry, entries_eq_map]
    refine .table (List.pairwise_map.2 ascending) fun m hm => ?_
    obtain ⟨m', hm', rfl⟩ := List.mem_map.1 hm
    exact ih m' hm'
  | tables items =>
    rw [Node.entry]
    exact ordered_list _

/-- Ordered members become an ordered table. -/
theorem OrderedMembers.entries (h : OrderedMembers members) :
    (Entry.table (entries members)).Ordered :=
  (Node.Ordered.table h.1 h.2 : (Node.table .header members).Ordered).entry

/-! ## Values -/

/-- A list that is read is ordered. -/
theorem readsOrdered_readItems (item : Reader Entry) (bound : Nat) (before : List Entry) :
    ReadsOrdered (readItems item bound before) := by
  induction bound generalizing before with
  | zero => exact fun cs e rest h => nomatch h
  | succ bound ih =>
    intro cs e rest h
    unfold readItems at h
    split at h
    · cases h
      exact ordered_list _
    · simp only [Option.bind_eq_bind, Option.bind_eq_some_iff] at h
      obtain ⟨⟨first, cs⟩, -, h⟩ := h
      split at h
      · exact ih _ _ e rest h
      · cases h
        exact ordered_list _
      · cases h

/-- The value of a pair that is read is ordered. -/
theorem ordered_readPair {item : Reader Entry} (hi : ReadsOrdered item) {cs rest : List Char}
    {path : List String} {e : Entry} (h : readPair item cs = some ((path, name, e), rest)) :
    e.Ordered := by
  simp only [readPair, Option.bind_eq_bind, Option.bind_eq_some_iff] at h
  obtain ⟨_, -, _, -, ⟨e', _⟩, read, h⟩ := h
  cases h
  exact hi _ _ _ read

/-- An inline table that is read is ordered, if its values are. -/
theorem readsOrdered_readPairs {item : Reader Entry} (hi : ReadsOrdered item) (bound : Nat)
    (h : OrderedMembers members) : ReadsOrdered (readPairs item bound members) := by
  induction bound generalizing members with
  | zero => exact fun cs e rest h => nomatch h
  | succ bound ih =>
    intro cs e rest read
    simp only [readPairs, Option.bind_eq_bind, Option.bind_eq_some_iff] at read
    obtain ⟨⟨⟨path, name, inner⟩, cs⟩, pair, members', added, read⟩ := read
    have ordered := orderedMembers_addPair (ordered_readPair hi pair) h added
    split at read
    · exact ih ordered _ e rest read
    · cases read
      exact ordered.entries
    · cases read

/-- Every value that is read is ordered, by induction on the depth. -/
theorem readsOrdered_readValue (depth : Nat) : ReadsOrdered (readValue depth) := by
  induction depth with
  | zero => exact readsOrdered_readScalar
  | succ depth ih =>
    intro cs e rest h
    unfold readValue at h
    split at h
    · exact readsOrdered_readItems _ _ _ _ e rest h
    · unfold readInlineTable at h
      split at h
      · cases h
        exact ordered_empty
      · exact readsOrdered_readPairs ih _ orderedMembers_nil _ e rest h
    · exact readsOrdered_readScalar _ e rest h

/-! ## Documents -/

/-- Reading a line keeps the members of the document ordered. -/
theorem orderedMembers_readLine {d d' : Document} {cs rest : List Char}
    (h : OrderedMembers d.members) (read : d.readLine cs = some (d', rest)) :
    OrderedMembers d'.members := by
  unfold Document.readLine at read
  split at read
  · simp only [Option.bind_eq_bind, Option.bind_eq_some_iff] at read
    obtain ⟨_, -, _, -, _, -, members, changed, read⟩ := read
    cases read
    exact orderedMembers_change (fun _ _ _ => orderedMembers_addToList) h changed
  · simp only [Option.bind_eq_bind, Option.bind_eq_some_iff] at read
    obtain ⟨_, -, _, -, members, changed, read⟩ := read
    cases read
    exact orderedMembers_change (fun _ _ _ => orderedMembers_addTable) h changed
  · simp only [Option.bind_eq_bind, Option.bind_eq_some_iff] at read
    obtain ⟨⟨⟨path, name, e⟩, cs⟩, pair, members, changed, read⟩ := read
    cases read
    have he := ordered_readPair (readsOrdered_readValue _) pair
    exact orderedMembers_change (fun _ _ _ => orderedMembers_addPair he) h changed

/-- Reading all lines keeps the members of the document ordered. -/
theorem orderedMembers_readLines? {bound : Nat} {d d' : Document} {cs : List Char}
    (h : OrderedMembers d.members) (read : Document.readLines? bound d cs = some d') :
    OrderedMembers d'.members := by
  induction bound generalizing d cs with
  | zero => cases read
  | succ bound ih =>
    unfold Document.readLines? at read
    split at read
    · cases read
      exact h
    · split at read
      · cases read
        exact h
      · cases read
    · simp only [Option.bind_eq_bind, Option.bind_eq_some_iff] at read
      obtain ⟨⟨next, cs⟩, line, _, -, read⟩ := read
      exact ih (orderedMembers_readLine h line) read

/-- A text that has no byte order mark is read from its first character. -/
theorem parse_of_toList {text : String} {c : Char} {cs : List Char}
    (chars : text.toList = c :: cs) (unmarked : c ≠ '\uFEFF') :
    parse text = (Document.readLines? (cs.length + 2) {} (c :: cs)).map fun d =>
      .table (entries d.members) := by
  have no_mark : ¬ (c :: cs).head? = some '\uFEFF' := by simpa using unmarked
  unfold parse
  simp only [chars, if_neg no_mark]
  cases Document.readLines? ((c :: cs).length + 1) {} (c :: cs) <;> rfl

/-- What a document says is ordered. -/
theorem ordered_parse {text : String} {e : Entry} (h : parse text = some e) : e.Ordered := by
  simp only [parse, Option.bind_eq_bind, Option.bind_eq_some_iff] at h
  obtain ⟨d, read, h⟩ := h
  cases h
  exact (orderedMembers_readLines? orderedMembers_nil read).entries

end Toml

/-! ## Variables -/

variable {e : Entry} {cs rest : List Char}

/-- A value of a variable without parts is ordered. -/
theorem readsOrdered_readSimple : ReadsOrdered readSimple := by
  intro cs e rest h
  unfold readSimple at h
  split at h
  · cases h
    exact .single nofun
  · cases h
    exact .single nofun
  · obtain ⟨_, -, h⟩ := Option.map_eq_some_iff.1 h
    cases h
    exact .single nofun
  · cases h
    exact .single nofun
  · cases h
  · cases h
    refine .single ?_
    unfold plainEntry
    split
    · exact nofun
    · cases integerOf? _ <;> exact nofun

/-- The members that are read are ordered if what is read for each of them is. -/
theorem ordered_readSequence {item : Reader Entry} (hi : ReadsOrdered item) {close : Char}
    {bound : Nat} {members : List (String × Entry)}
    (h : readSequence close (readMember item) bound cs = some (members, rest)) :
    ∀ m ∈ members, m.2.Ordered := by
  induction bound generalizing cs members with
  | zero => cases h
  | succ bound ih =>
    unfold readSequence at h
    split at h
    · cases h
      exact nofun
    · simp only [Option.bind_eq_bind, Option.bind_eq_some_iff] at h
      obtain ⟨⟨⟨name, e⟩, cs⟩, read, h⟩ := h
      have he : e.Ordered := by
        simp only [readMember, Option.bind_eq_bind, Option.bind_eq_some_iff] at read
        obtain ⟨_, -, read⟩ := read
        split at read
        · obtain ⟨_, value, done⟩ := Option.bind_eq_some_iff.1 read
          cases done
          exact hi _ _ _ value
        · cases read
      split at h
      · obtain ⟨⟨more, _⟩, read, done⟩ := Option.bind_eq_some_iff.1 h
        cases done
        exact List.forall_mem_cons.2 ⟨he, ih read⟩
      · split at h
        · cases h
          exact List.forall_mem_singleton.2 he
        · cases h
      · cases h

/-- Members that are put in one after the other make an ordered table. -/
theorem ordered_foldl_put {members table : List (String × Entry)}
    (h : ∀ m ∈ members, m.2.Ordered) (ordered : (Entry.table table).Ordered) :
    (Entry.table (members.foldl (fun t m => put m.1 m.2 t) table)).Ordered := by
  induction members generalizing table with
  | nil => exact ordered
  | cons m rest ih =>
    rw [List.forall_mem_cons] at h
    exact ih h.2 (ordered.put m.1 h.1)

/-- Every value of a variable that is read is ordered, by induction on the depth. -/
theorem readsOrdered_readEntry (depth : Nat) : ReadsOrdered (readEntry depth) := by
  induction depth with
  | zero => exact fun cs e rest h => nomatch h
  | succ depth ih =>
    intro cs e rest h
    simp only [readEntry, Option.bind_eq_bind] at h
    split at h
    · obtain ⟨_, read, done⟩ := Option.bind_eq_some_iff.1 h
      obtain ⟨_, -, rfl⟩ := Option.map_eq_some_iff.1 read
      cases done
      exact ordered_list _
    · obtain ⟨_, read, done⟩ := Option.bind_eq_some_iff.1 h
      obtain ⟨_, sequence, rfl⟩ := Option.map_eq_some_iff.1 read
      cases done
      exact ordered_foldl_put (ordered_readSequence ih sequence) ordered_empty
    · obtain ⟨_, read, done⟩ := Option.bind_eq_some_iff.1 h
      cases done
      exact readsOrdered_readSimple _ _ _ read

/-- What a variable says is ordered. -/
theorem ordered_variableEntry (value : String) : (variableEntry value).Ordered := by
  unfold variableEntry
  dsimp only
  split
  · next read => exact readsOrdered_readEntry _ _ _ _ read
  · exact .single nofun

/-- What variables say is ordered. -/
theorem ordered_ofVariables (environment : List (String × String)) :
    (ofVariables environment).Ordered := by
  refine ordered_layered fun e he => ?_
  obtain ⟨⟨name, value⟩, -, he⟩ := List.mem_filterMap.1 he
  obtain ⟨path, -, rfl⟩ := Option.map_eq_some_iff.1 he
  exact ordered_nest (ordered_variableEntry value) path

end FederatedLogin.Settings
