import PythonDocs.Proofs.Python.Threads

namespace PythonDocs.Python

open Text (slice)

variable {source : List Char}

theorem Lexeme.Cuts.follows {lexeme : Lexeme} {offset start : Nat}
    (cuts : lexeme.Cuts (source.drop offset)) (same : start = offset + lexeme.skipped) :
    Token.Follows source offset ⟨lexeme.terminal, start, lexeme.text⟩ ∧
      lexeme.rest = source.drop (start + lexeme.text.length) := by
  subst same
  have behind : source.drop (offset + lexeme.skipped) = lexeme.text ++ lexeme.rest := by
    have whole := (List.take_append_drop lexeme.skipped (source.drop offset)).trans cuts.split.symm
    rw [← List.drop_drop]
    exact List.append_cancel_left whole
  refine ⟨⟨Nat.le_add_right _ _, fun other c member => ?_, ?_, cuts.spelled⟩, ?_⟩
  · rw [slice, Nat.add_sub_cancel_left] at member
    exact cuts.blank other c member
  · simp [slice, Token.stop, behind]
  · rw [← List.drop_drop, behind, List.drop_left]

theorem mem_of_mem_distinct {threads : List Thread} {thread : Thread}
    (member : thread ∈ distinct threads) : thread ∈ threads := by
  induction threads with
  | nil => exact member
  | cons first rest ih =>
    rcases List.mem_cons.mp member with rfl | member
    · exact List.mem_cons_self
    · exact List.mem_cons_of_mem _ (ih (List.mem_filter.mp member).1)

theorem Thread.Sound.module {thread : Thread} (sound : thread.Sound) (done : thread.todo = []) :
    Grammar.moduleRule.Derives (partsOf thread.frame.trees) ∧ thread.trees = thread.frame.trees := by
  obtain ⟨-, completes⟩ := sound
  rw [done] at completes
  rw [Thread.trees_eq]
  cases outer : thread.outer with
  | nil =>
    rw [outer] at completes
    obtain ⟨rules, tasks, all⟩ := completes
    cases rules with
    | nil => exact ⟨by simpa [Frame.parts] using all [] rfl, rfl⟩
    | cons => cases tasks
  | cons around outer' =>
    rw [outer] at completes
    obtain ⟨rules, rest, rule, tasks, -⟩ := completes
    exact absurd tasks.symm (List.append_ne_nil_of_right_ne_nil _ (List.cons_ne_nil _ _))

namespace Reader

structure Sound (source : List Char) (reader : Reader) : Prop where
  text : reader.text = source.drop reader.offset
  threads : ∀ thread ∈ reader.threads, thread.Sound ∧ thread.IsGrounded ∧
    Token.Tile source 0 thread.tokens reader.offset

theorem sound_start (source : List Char) : (Reader.start source).Sound source := by
  refine ⟨rfl, fun thread member => ?_⟩
  rw [List.mem_singleton.mp member]
  refine ⟨⟨?_, [Grammar.moduleRule], rfl, ?_⟩, .inl rfl, rfl⟩
  · intro rule member
    cases List.mem_singleton.mp member
    exact Grammar.nodes_moduleRule
  · rintro - ⟨more, -, rfl, derives, rfl⟩
    simpa using derives

theorem Sound.ready {reader : Reader} (sound : reader.Sound source) {thread : Thread}
    (member : thread ∈ reader.threads.flatMap Thread.ready) :
    thread.Sound ∧ Token.Tile source 0 thread.tokens reader.offset := by
  obtain ⟨first, listed, inside⟩ := List.mem_flatMap.mp member
  obtain ⟨own, -, tile⟩ := sound.threads first listed
  obtain ⟨kept, same⟩ := Thread.sound_of_steps (Thread.steps_of_mem_expand inside) own
  exact ⟨kept, same ▸ tile⟩

/-- Every run that ends with trees has read a module of the grammar, token by token. -/
theorem trees_of_run {fuel : Nat} {reader : Reader} {trees : List Tree}
    (sound : reader.Sound source) (read : Reader.run fuel reader = .ok trees) :
    Grammar.moduleRule.Derives (partsOf trees) ∧
      ∃ final, Token.Tile source 0 (Tree.tokensOf trees) final := by
  induction fuel generalizing reader with
  | zero => cases read
  | succ fuel ih =>
    simp only [run] at read
    split at read
    · cases read
    · rename_i lexeme layout found
      have cuts := Lexeme.next?_cuts found
      rw [sound.text] at cuts
      obtain ⟨follows, rest⟩ := cuts.follows rfl
      have extend {tokens : List Token} (tile : Token.Tile source 0 tokens reader.offset) :
          Token.Tile source 0 (tokens ++ [⟨lexeme.terminal, reader.offset + lexeme.skipped,
            lexeme.text⟩]) (reader.offset + lexeme.skipped + lexeme.text.length) :=
        Token.tile_append.mpr ⟨_, tile, follows, rfl⟩
      -- the end of the source, then trivia, and then all other tokens
      split at read
      · split at read
        · rename_i thread ending
          cases read
          obtain ⟨own, tile⟩ := sound.ready (List.mem_of_find?_eq_some ending)
          obtain ⟨derives, same⟩ := own.module (by simpa using List.find?_some ending)
          refine ⟨derives, reader.offset, ?_⟩
          rw [Thread.tokens, same] at tile
          exact tile
        · cases read
      · split at read
        · rename_i trivia
          refine ih ⟨rest, fun thread member => ?_⟩ read
          obtain ⟨before, listed, rfl⟩ := List.mem_map.mp member
          obtain ⟨own, grounded, tile⟩ := sound.threads before listed
          obtain ⟨kept, still⟩ := own.push_trivia grounded trivia
          exact ⟨kept, still, Thread.tokens_push _ ▸ extend tile⟩
        · rename_i solid
          split at read
          · cases read
          · refine ih ⟨rest, fun thread member => ?_⟩ read
            obtain ⟨before, listed, taken⟩ := List.mem_filterMap.mp (mem_of_mem_distinct member)
            obtain ⟨own, tile⟩ := sound.ready listed
            obtain ⟨kept, grounded, tokens⟩ := own.take (Bool.eq_false_iff.mpr solid) taken
            exact ⟨kept, grounded, tokens ▸ extend tile⟩

end Reader

theorem trees_of_parse {trees : List Tree} (read : parse source = .ok trees) :
    Grammar.moduleRule.Derives (partsOf trees) ∧ Tree.AreWellMade trees ∧
      ∃ final, Token.Tile source 0 (Tree.tokensOf trees) final := by
  obtain ⟨derives, tile⟩ := Reader.trees_of_run (Reader.sound_start source) read
  have parts := Tree.areWellMade_of_derives derives Grammar.nodes_moduleRule
  exact ⟨derives, Tree.areWellMade_of_parts parts, tile⟩

end PythonDocs.Python
