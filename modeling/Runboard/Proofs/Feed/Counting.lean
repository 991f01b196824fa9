import Runboard.Proofs.Feed.SharedBar

set_option autoImplicit false

namespace Runboard

open SharedBar (Change changed changed_cons changed_append name_changed frame)

theorem Bar.countMax_eq : Bar.countMax = Nat.pow 2 64 - 1 := by decide

theorem Bar.eq_of_fields {bar other : Bar} (names : bar.name = other.name)
    (counts : bar.count = other.count) (lengths : bar.length = other.length) : bar = other := by
  cases bar
  cases other
  simp_all

namespace SharedBar.Change

def amount : Change → Nat
  | .inc n => n
  | .setLength _ => 0

def length? : Change → Option Nat
  | .inc _ => none
  | .setLength n => some n

theorem count_apply (change : Change) {bar : Bar} (bounded : bar.count ≤ Bar.countMax) :
    (change.apply bar).count = min Bar.countMax (bar.count + change.amount) := by
  cases change with
  | inc n => rfl
  | setLength n => exact (Nat.min_eq_right bounded).symm

theorem length_apply (change : Change) (bar : Bar) :
    (change.apply bar).length = change.length?.or bar.length := by
  cases change <;> rfl

end SharedBar.Change

namespace Counting

/-- The sum of all that was counted. -/
def total : List Change → Nat
  | [] => 0
  | change :: rest => change.amount + total rest

/-- The sum as far as a 64-bit number can hold it. -/
def counted (changes : List Change) : Nat := min (Nat.pow 2 64 - 1) (total changes)

def lastLength? (changes : List Change) : Option Nat :=
  (changes.filterMap Change.length?).getLast?

/-- The text for what was counted: the sum, and the length if one was set. -/
def text (changes : List Change) : String :=
  toString (counted changes) ++
    match lastLength? changes with
    | some length => "/" ++ toString length
    | none => ""

/-- Cutting off after every step is cutting off once. -/
theorem count_changed {bar : Bar} (bounded : bar.count ≤ Bar.countMax) (changes : List Change) :
    (changed bar changes).count = min Bar.countMax (bar.count + total changes) := by
  induction changes generalizing bar with
  | nil => exact (Nat.min_eq_right bounded).symm
  | cons change rest ih =>
      have here := change.count_apply bounded
      have room : (change.apply bar).count ≤ Bar.countMax := by omega
      rw [changed_cons, ih room, here, total]
      omega

theorem length_changed (bar : Bar) (changes : List Change) :
    (changed bar changes).length = (lastLength? changes).or bar.length := by
  induction changes generalizing bar with
  | nil => rfl
  | cons change rest ih =>
      rw [changed_cons, ih, change.length_apply]
      cases set : change.length? with
      | none => simp [lastLength?, set]
      | some n => cases later : lastLength? rest <;> simp_all [lastLength?, List.getLast?_cons]

/-- A new bar shows the sum of all that it was told. -/
theorem counter_changed (name : String) (changes : List Change) :
    (changed { name } changes).counter = ⟨text changes⟩ := by
  have count : (changed { name } changes).count = counted changes := by
    rw [count_changed (Nat.zero_le _), Nat.zero_add, Bar.countMax_eq, counted]
  have length : (changed { name } changes).length = lastLength? changes := by
    rw [length_changed, Option.or_none]
  rw [Bar.counter, length, text, count]
  cases lastLength? changes with
  | none => exact congrArg Counter.mk String.append_empty.symm
  | some n => exact congrArg Counter.mk String.append_assoc

theorem total_append (first second : List Change) :
    total (first ++ second) = total first + total second := by
  induction first with
  | nil => exact (Nat.zero_add _).symm
  | cons change rest ih =>
      rw [List.cons_append, total, total, ih]
      omega

theorem total_perm {first second : List Change} (permuted : first.Perm second) :
    total first = total second := by
  induction permuted with
  | nil => rfl
  | cons change _ ih => rw [total, total, ih]
  | swap change other rest =>
      simp only [total]
      omega
  | trans _ _ first second => exact first.trans second

/-- Where nothing but counting is done no length is set. -/
theorem lastLength?_of_incs {changes : List Change}
    (incs : ∀ change ∈ changes, ∃ n, change = .inc n) : lastLength? changes = none := by
  have nothing : changes.filterMap Change.length? = [] := by
    refine List.filterMap_eq_nil_iff.mpr fun change member => ?_
    obtain ⟨n, rfl⟩ := incs change member
    rfl
  rw [lastLength?, nothing]
  rfl

theorem counted_take_le (changes : List Change) {i j : Nat} (before : i ≤ j) :
    counted (changes.take i) ≤ counted (changes.take j) := by
  have split : changes.take j = changes.take i ++ (changes.drop i).take (j - i) := by
    rw [← List.take_add]
    congr 1
    omega
  rw [counted, counted, split, total_append]
  omega

/-- The order of increments makes no difference to a bar. -/
theorem changed_perm {block other : List Change} (permuted : block.Perm other)
    (incs : ∀ change ∈ block, ∃ n, change = .inc n) {bar : Bar}
    (bounded : bar.count ≤ Bar.countMax) : changed bar block = changed bar other := by
  have incsToo : ∀ change ∈ other, ∃ n, change = .inc n :=
    fun change member => incs change (permuted.mem_iff.mpr member)
  have names : (changed bar block).name = (changed bar other).name := by
    rw [name_changed, name_changed]
  have counts : (changed bar block).count = (changed bar other).count := by
    rw [count_changed bounded, count_changed bounded, total_perm permuted]
  have lengths : (changed bar block).length = (changed bar other).length := by
    rw [length_changed, length_changed, lastLength?_of_incs incs, lastLength?_of_incs incsToo]
  exact Bar.eq_of_fields names counts lengths

structure Outcome where
  bar : Bar
  channel : Channel
  results : List (Except ChannelError Unit)

def callAll : List Change → Bar → Channel → Outcome
  | [], bar, channel => ⟨bar, channel, []⟩
  | change :: rest, bar, channel =>
    match change.call bar channel with
    | (bar, .ok channel) =>
      let later := callAll rest bar channel
      { later with results := .ok () :: later.results }
    | (bar, .error e) =>
      let later := callAll rest bar channel
      { later with results := .error e :: later.results }

def counters : Bar → List Change → List Counter
  | _, [] => []
  | bar, change :: rest => (change.apply bar).counter :: counters (change.apply bar) rest

theorem counters_eq_range (bar : Bar) (changes : List Change) :
    counters bar changes =
      (List.range changes.length).map fun k => (changed bar (changes.take (k + 1))).counter := by
  induction changes generalizing bar with
  | nil => rfl
  | cons change rest ih =>
      rw [counters, ih, List.length_cons, List.range_succ_eq_map, List.map_cons, List.map_map]
      rfl

theorem counters_append (bar : Bar) (first second : List Change) :
    counters bar (first ++ second) = counters bar first ++ counters (changed bar first) second := by
  induction first generalizing bar with
  | nil => rfl
  | cons change rest ih =>
      rw [List.cons_append, counters, ih, counters, changed_cons, List.cons_append]

/-- The last counter is that of the bar as it is in the end. -/
theorem getLast?_counters (bar : Bar) (changes : List Change) :
    (counters bar changes).getLast? =
      if changes = [] then none else some (changed bar changes).counter := by
  induction changes generalizing bar with
  | nil => rfl
  | cons change rest ih =>
      rw [counters, List.getLast?_cons, ih, if_neg (List.cons_ne_nil change rest), changed_cons]
      cases rest with
      | nil => rfl
      | cons next rest => rfl

/-- Over an open channel every call posts the counter that it has led to. -/
theorem callAll_open {channel : Channel} (isOpen : channel.receiving = true) (bar : Bar)
    (changes : List Change) :
    callAll changes bar channel =
      { bar := changed bar changes
        channel := { channel with
          queue := channel.queue ++ (counters bar changes).map (frame bar.name) }
        results := List.replicate changes.length (.ok ()) } := by
  induction changes generalizing bar channel with
  | nil => simp [callAll, counters]
  | cons change rest ih =>
      have sent := Channel.send_open isOpen (change.apply bar).counterMessage
      have stillOpen : ({ channel with queue := channel.queue ++
          [(change.apply bar).counterMessage.toFrame] } : Channel).receiving = true := isOpen
      rw [callAll, Change.call_eq, sent]
      dsimp only
      rw [ih stillOpen, Change.name_apply]
      simp [counters, List.replicate_succ, frame, Bar.counterMessage]

/-- The calls on a new bar post one update each, which is read as such. The counter in it is the
sum of all increments up to then, or the largest 64-bit number if that is less, followed by the
length that was set last. The sums never decrease. Increments without a length set between them may
come in any order: the bar and the last update are the same after them, and after whatever
follows. -/
theorem calls_post_exact_counters (name : String) {channel : Channel}
    (isOpen : channel.receiving = true) :
    (∀ changes : List Change,
      (callAll changes { name } channel).results = List.replicate changes.length (.ok ()) ∧
        (callAll changes { name } channel).channel.queue = channel.queue ++
          (List.range changes.length).map (fun k =>
            (Message.update name ⟨text (changes.take (k + 1))⟩).toFrame) ∧
        ((callAll changes { name } channel).channel.queue.drop channel.queue.length).map
            Message.ofFrame =
          (List.range changes.length).map (fun k =>
            .ok (.update name ⟨text (changes.take (k + 1))⟩)) ∧
        ∀ i j, i ≤ j → counted (changes.take i) ≤ counted (changes.take j)) ∧
      ∀ before block other after : List Change, block.Perm other →
        (∀ change ∈ block, ∃ n, change = .inc n) →
        (callAll (before ++ block ++ after) { name } channel).bar =
            (callAll (before ++ other ++ after) { name } channel).bar ∧
          (callAll (before ++ block ++ after) { name } channel).channel.queue.getLast? =
            (callAll (before ++ other ++ after) { name } channel).channel.queue.getLast? := by
  constructor
  · intro changes
    have posted : (counters { name } changes).map (frame name) =
        (List.range changes.length).map (fun k =>
          (Message.update name ⟨text (changes.take (k + 1))⟩).toFrame) := by
      rw [counters_eq_range, List.map_map]
      apply List.map_congr_left
      intro k _
      rw [Function.comp_apply, counter_changed, frame]
    rw [callAll_open isOpen, posted]
    refine ⟨rfl, rfl, ?_, fun i j before => counted_take_le changes before⟩
    rw [List.drop_left, List.map_map]
    apply List.map_congr_left
    intro k _
    exact Message.ofFrame_toFrame _
  · intro before block other after permuted incs
    have bounded : (changed { name } before).count ≤ Bar.countMax := by
      rw [count_changed (Nat.zero_le _)]
      exact Nat.min_le_left _ _
    have sameBar : changed { name } (before ++ block ++ after) =
        changed { name } (before ++ other ++ after) := by
      rw [changed_append, changed_append, changed_append, changed_append,
        changed_perm permuted incs bounded]
    have sameLength := ((permuted.append_left before).append_right after).length_eq
    have sameEnd : before ++ block ++ after = [] ↔ before ++ other ++ after = [] := by
      rw [← List.length_eq_zero_iff, sameLength, List.length_eq_zero_iff]
    rw [callAll_open isOpen, callAll_open isOpen]
    refine ⟨sameBar, ?_⟩
    simp only [List.getLast?_append, List.getLast?_map, getLast?_counters, sameBar, sameEnd]

/-- The limit is reached by the second increment and passed by the third; the first two may be
swapped. -/
theorem calls_post_exact_counters_at_limit :
    let limit := 18446744073709551615
    (callAll [.setLength 9, .inc 1, .inc limit, .inc 7] { name := "file" } {}).channel.queue =
        ["0/9", "1/9", "18446744073709551615/9", "18446744073709551615/9"].map
          (fun text => (Message.update "file" ⟨text⟩).toFrame) ∧
      (callAll [.setLength 9, .inc 1, .inc limit, .inc 7] { name := "file" } {}).bar =
        (callAll [.setLength 9, .inc limit, .inc 1, .inc 7] { name := "file" } {}).bar := by
  intro limit
  have isOpen : ({} : Channel).receiving = true := rfl
  obtain ⟨posts, swaps⟩ := calls_post_exact_counters "file" isOpen
  constructor
  · rw [(posts [.setLength 9, .inc 1, .inc limit, .inc 7]).2.1]
    have texts : (List.range 4).map (fun k => text ([.setLength 9, .inc 1, .inc limit,
        .inc 7].take (k + 1))) =
          ["0/9", "1/9", "18446744073709551615/9", "18446744073709551615/9"] := by
      decide +kernel
    rw [← texts, List.map_map]
    rfl
  · refine (swaps [.setLength 9] [.inc 1, .inc limit] [.inc limit, .inc 1] [.inc 7] ?_ ?_).1
    · exact List.Perm.swap _ _ _
    · simp

end Counting

end Runboard
