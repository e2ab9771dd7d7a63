import PlainSteps.Sentence.Clause
import PlainSteps.Sentence.Instruction
import PlainSteps.Sentence.Lexicon

/-!
# Sentences

A sentence is read clause by clause into commands. The first clause that is no command refuses the
whole sentence.
-/

namespace PlainSteps.Sentence

/-- The instructions of all clauses, in order. -/
def instructionsOf (tagger : Tagger) (sentence : Text) : List (List Term) :=
  (clauses sentence).flatMap fun clause => tagger.split (tagger.tag clause)

theorem instructionsOf_standard (sentence : Text) : instructionsOf .standard sentence =
    (clauses sentence).flatMap fun clause => instructions (lexicon clause) := rfl

variable [Regex.Engine]

/-- The commands of a sentence, with a tagger of choice. -/
def parseWith (tagger : Tagger) (sentence : Text) : Except Fault (List Command) :=
  (instructionsOf tagger sentence).mapM readInstruction

/-- The commands of a sentence. -/
def parse (sentence : Text) : Except Fault (List Command) := parseWith .standard sentence

end PlainSteps.Sentence
