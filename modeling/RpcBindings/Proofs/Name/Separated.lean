/-
Module: RpcBindings.Proofs.Name.Separated
Purpose: Names whose words are set apart by a separator have the words with which they were spelled.
Main exports: Name.Ascii, Name.SmallRun, Name.SmallRuns, Name.words_intercalate,
  Name.snake_kebab_outcome
-/
import RpcBindings.Proofs.Name.Collisions

namespace RpcBindings.Name

open Unicode

/-!
The words of an ASCII name become runs of small letters and digits.  Such a run has no capital in
front of which a word could end, so that a name in which runs are joined by a separator has these
runs as its words, and they stay as they are when it is spelled again.
-/

/-! ### Words of ASCII names -/

def Ascii (name : String) : Prop :=
  ∀ c ∈ name.toList, c.toNat < 0x80

instance : DecidablePred Ascii := fun name =>
  List.decidableBAll (fun c : Char => c.toNat < 0x80) name.toList

/-- The letters and digits of ASCII can be gone through by their codes. -/
theorem forall_alphanum (holds : Char → Prop)
    (codes : ∀ code < 0x80, (Char.ofNat code).isAlphanum = true → holds (Char.ofNat code))
    {c : Char} (alphanum : c.isAlphanum = true) : holds c :=
  forall_ascii (fun c => c.isAlphanum = true → holds c) codes (toNat_lt_of_isAlphanum alphanum)
    alphanum

theorem isAlphanum_of_mem_words {name : String} (ascii : Ascii name) {word : List Char}
    (member : word ∈ words name.toList) : ∀ c ∈ word, c.isAlphanum = true := by
  refine holds_of_mem_words (fun c inside alphanumeric => ?_) member
  rwa [isAlphanumeric_of_ascii (ascii c inside)] at alphanumeric

theorem isAlphanumeric_of_isAlphanum {c : Char} (alphanum : c.isAlphanum = true) :
    isAlphanumeric c = true := by
  rwa [isAlphanumeric_of_ascii (toNat_lt_of_isAlphanum alphanum)]

/-- ASCII letters and digits change one by one. -/
theorem smallWord_append {part : List Char} (alphanum : ∀ c ∈ part, c.isAlphanum = true)
    (more : List Char) : smallWord (part ++ more) = part.map Char.toLower ++ smallWord more := by
  induction part with
  | nil => rfl
  | cons c part inductionHypothesis =>
      obtain ⟨first, others⟩ := List.forall_mem_cons.mp alphanum
      have noSigma : c ≠ 'Σ' := by
        rintro rfl
        exact absurd first (by decide)
      have single (rest : List Char) : smallWord (c :: rest) = c.toLower :: smallWord rest := by
        have lowered := toLower_of_ascii (toNat_lt_of_isAlphanum first)
        cases rest with
        | nil => simp [smallWord, noSigma, lowered]
        | cons d rest => simp [smallWord, lowered]
      rw [List.cons_append, single, inductionHypothesis others, List.map_cons, List.cons_append]

theorem smallWord_eq_map {word : List Char} (alphanum : ∀ c ∈ word, c.isAlphanum = true) :
    smallWord word = word.map Char.toLower := by
  have split := smallWord_append alphanum []
  rwa [List.append_nil, smallWord, List.append_nil] at split

/-! ### Runs -/

/-- Small letters and digits, and at least one of them. -/
structure SmallRun (run : List Char) : Prop where
  some : run ≠ []
  small : ∀ c ∈ run, (c.isLower || c.isDigit) = true

theorem SmallRun.alphanum {run : List Char} (small : SmallRun run) :
    ∀ c ∈ run, c.isAlphanum = true := by
  intro c inside
  have kinds : c.isAlphanum = (c.isUpper || (c.isLower || c.isDigit)) := Bool.or_assoc ..
  rw [kinds, small.small c inside, Bool.or_true]

/-- A run holds no capitals. -/
theorem SmallRun.no_capital {run : List Char} (small : SmallRun run) :
    ∀ c ∈ run, isUppercase c = false := by
  intro c inside
  exact forall_alphanum (fun c => (c.isLower || c.isDigit) = true → isUppercase c = false)
    (by decide) (small.alphanum c inside) (small.small c inside)

/-- A run stays when it is put in small letters. -/
theorem SmallRun.smallWord_eq {run : List Char} (small : SmallRun run) : smallWord run = run := by
  have settled : ∀ c ∈ run, c.toLower = c := fun c inside =>
    forall_alphanum (fun c => (c.isLower || c.isDigit) = true → c.toLower = c) (by decide)
      (small.alphanum c inside) (small.small c inside)
  rw [smallWord_eq_map small.alphanum, List.map_congr_left settled, List.map_id']

/-- The words of an ASCII name become runs. -/
theorem smallRun_smallWord {name : String} (ascii : Ascii name) {word : List Char}
    (member : word ∈ words name.toList) : SmallRun (smallWord word) := by
  have alphanum := isAlphanum_of_mem_words ascii member
  have lowered : ∀ c ∈ word, (c.toLower.isLower || c.toLower.isDigit) = true := fun c inside =>
    forall_alphanum (fun c => (c.toLower.isLower || c.toLower.isDigit) = true) (by decide)
      (alphanum c inside)
  refine ⟨smallWord_ne_nil (ne_nil_of_mem_words member), ?_⟩
  rw [smallWord_eq_map alphanum]
  exact List.forall_mem_map.mpr lowered

/-- No word ends inside a run without capitals. -/
theorem cutWords_of_no_capital {mode : CaseMode} {word run : List Char} (some : run ≠ [])
    (small : ∀ c ∈ run, isUppercase c = false) :
    cutWords mode word run = [word.reverse ++ run] := by
  fun_induction cutWords mode word run with
  | case1 => exact absurd rfl some
  | case2 mode word c => simp
  | case3 mode word c d rest ends inductionHypothesis =>
      have also := small d (List.mem_cons_of_mem _ (List.mem_cons_self ..))
      rw [ends.2] at also
      cases also
  | case4 mode word c d rest ends starts inductionHypothesis =>
      have also := small c (List.mem_cons_self ..)
      rw [starts.2.1] at also
      cases also
  | case5 mode word c d rest ends starts inductionHypothesis =>
      rw [inductionHypothesis (List.cons_ne_nil _ _) (List.forall_mem_cons.mp small).2]
      simp

/-- Runs that were joined by a separator are the words of what they make up. -/
theorem words_intercalate {separator : Char} (separates : isAlphanumeric separator = false)
    {runs : List (List Char)} (each : ∀ run ∈ runs, SmallRun run) :
    words ([separator].intercalate runs) = runs := by
  have cut {run : List Char} (small : SmallRun run) : cutWords .undecided [] run = [run] :=
    cutWords_of_no_capital small.some small.no_capital
  have inside {run : List Char} (small : SmallRun run) :
      ∀ c ∈ run, (fun c => !isAlphanumeric c) c = false := by
    intro c member
    simpa using isAlphanumeric_of_isAlphanum (small.alphanum c member)
  induction runs with
  | nil => rfl
  | cons run runs inductionHypothesis =>
      obtain ⟨first, others⟩ := List.forall_mem_cons.mp each
      cases runs with
      | nil =>
          rw [List.intercalate_singleton, words, List.splitOnP_eq_singleton (inside first),
            List.flatMap_singleton, cut first]
      | cons next runs =>
          have below := inductionHypothesis others
          rw [words] at below ⊢
          rw [List.intercalate_cons_cons, List.append_assoc, List.singleton_append,
            List.splitOnP_append_cons_of_forall_mem (inside first) separator (by simp [separates]),
            List.flatMap_cons, cut first, below, List.singleton_append]

/-! ### Spelling a name again -/

/-- Runs of small letters and digits, with one separator between any two. -/
def SmallRuns (separator : Char) (text : String) : Prop :=
  ∃ runs, (∀ run ∈ runs, SmallRun run) ∧ text.toList = [separator].intercalate runs

theorem smallRun_of_mem_map {name : String} (ascii : Ascii name) :
    ∀ run ∈ (words name.toList).map smallWord, SmallRun run :=
  List.forall_mem_map.mpr fun _ member => smallRun_smallWord ascii member

/-- A name that was spelled with a separator stays when it is spelled with it again. -/
theorem separated_separated {name : String} (ascii : Ascii name) {separator : Char}
    (separates : isAlphanumeric separator = false) :
    separated separator (separated separator name.toList) = separated separator name.toList := by
  have runs := smallRun_of_mem_map ascii
  rw [separated, separated, words_intercalate separates runs,
    List.map_congr_left fun run member => (runs run member).smallWord_eq, List.map_id']

/-- Another separator comes where the first one was, and nowhere else. -/
theorem map_intercalate {separator other : Char} {runs : List (List Char)}
    (clear : ∀ run ∈ runs, separator ∉ run) :
    ([separator].intercalate runs).map (fun c => if c = separator then other else c) =
      [other].intercalate runs := by
  have stays {run : List Char} (clear : separator ∉ run) :
      run.map (fun c => if c = separator then other else c) = run := by
    refine (List.map_congr_left fun c inside => if_neg ?_).trans (List.map_id' run)
    rintro rfl
    exact clear inside
  induction runs with
  | nil => rfl
  | cons run runs inductionHypothesis =>
      obtain ⟨first, others⟩ := List.forall_mem_cons.mp clear
      cases runs with
      | nil => simpa using stays first
      | cons next runs =>
          rw [List.intercalate_cons_cons, List.intercalate_cons_cons, List.map_append,
            List.map_append, stays first, inductionHypothesis others]
          simp

/-- The snake and the kebab case of an ASCII name are settled by the first spelling: they stay when
they are spelled again.  Each of them is made of runs of small letters and digits, none of them
empty, with one separator between any two and none at either end, and the two differ in the
separator only. -/
theorem snake_kebab_outcome {name : String} (ascii : Ascii name) :
    snake (snake name) = snake name ∧ kebab (kebab name) = kebab name ∧
      SmallRuns '_' (snake name) ∧ SmallRuns '-' (kebab name) ∧
      kebab name = (snake name).map fun c => if c = '_' then '-' else c := by
  have runs := smallRun_of_mem_map ascii
  have clear : ∀ run ∈ (words name.toList).map smallWord, '_' ∉ run := by
    intro run member inside
    exact absurd ((runs run member).small '_' inside) (by decide)
  refine ⟨?_, ?_, ⟨_, runs, toList_snake name⟩, ⟨_, runs, toList_kebab name⟩, ?_⟩
  · rw [← String.toList_inj, toList_snake, toList_snake, separated_separated ascii (by decide)]
  · rw [← String.toList_inj, toList_kebab, toList_kebab, separated_separated ascii (by decide)]
  · rw [← String.toList_inj, String.toList_map, toList_kebab, toList_snake, separated, separated,
      map_intercalate clear]

/-- A name with a run of capitals, a digit and separators of its own. -/
theorem snake_kebab_outcome_httpServer :
    Ascii "__HTTPServer2-go" ∧ snake "__HTTPServer2-go" = "http_server2_go" ∧
      snake "http_server2_go" = "http_server2_go" ∧
      kebab "http-server2-go" = "http-server2-go" := by
  have ascii : Ascii "__HTTPServer2-go" := by decide
  obtain ⟨snaked, kebabed, -, -, -⟩ := snake_kebab_outcome ascii
  have spelled : snake "__HTTPServer2-go" = "http_server2_go" := by decide
  have dashed : kebab "__HTTPServer2-go" = "http-server2-go" := by decide
  rw [spelled] at snaked
  rw [dashed] at kebabed
  exact ⟨ascii, spelled, snaked, kebabed⟩

end RpcBindings.Name
