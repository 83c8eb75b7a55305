import Microworlds.Text.Class
import Microworlds.Text.Lowercase
import Microworlds.Json.Coded

/-!
# The quality of prompts

A prompt is marked for clarity, specificity and context by simple signs: its length, a question mark,
digits, and words that it contains in any mixture of capitals.
-/

namespace Microworlds.AiChat

structure Quality where
  clarity : UInt32
  specificity : UInt32
  context : UInt32
  deriving DecidableEq, Repr

def vagueWords : List String :=
  ["什么", "怎么", "好的", "最好", "what", "how", "good", "best"]

def domainWords : List String :=
  ["算法", "数据结构", "机器学习", "前端", "后端", "设计", "algorithm", "data structure",
    "machine learning", "frontend", "backend", "design"]

def actionWords : List String :=
  ["创建", "分析", "优化", "实现", "设计", "create", "analyze", "optimize", "implement", "design"]

def constraintWords : List String :=
  ["要求", "限制", "条件", "规则", "requirement", "limit", "condition", "rule"]

def goalWords : List String :=
  ["目标", "希望", "需要", "想要", "goal", "hope", "need", "want"]

/-- Whether a word stands somewhere in a text. -/
def containsWord (word : List Char) : List Char → Bool
  | [] => word.isEmpty
  | c :: rest => word.isPrefixOf (c :: rest) || containsWord word rest

/-- Whether one of the words stands somewhere in a text. -/
def containsAny (text : List Char) (words : List String) : Bool :=
  words.any fun word => containsWord word.toList text

def points (amount : UInt32) (sign : Bool) : UInt32 :=
  if sign then amount else 0

/-- The marks of a prompt, at most 100 each. -/
def assess (prompt : String) : Quality :=
  let text := prompt.toList
  let lowered := Text.lowercase text
  let length := text.length
  let asks := text.contains '?' || text.contains '？'
  { clarity := min 100 (50 + points 20 asks + points 15 (10 < length && length < 100) +
      points 15 (!containsAny lowered vagueWords))
    specificity := min 100 (30 + points 20 (text.any fun c => (Text.digitValue? c).isSome) +
      points 25 (containsAny lowered domainWords) + points 25 (containsAny lowered actionWords))
    context := min 100 (40 + points 20 (50 < length) +
      points 20 (containsAny lowered constraintWords) +
      points 20 (containsAny lowered goalWords)) }

namespace Quality

/-- The sum of the marks, if it fits 32 bits. -/
def total? (q : Quality) : Option UInt32 :=
  Word.uint32? (q.clarity.toNat + q.specificity.toNat + q.context.toNat)

end Quality

/-- How good a prompt is on the whole. -/
inductive Tier where
  | low
  | medium
  | high
  deriving DecidableEq, Repr

namespace Tier

def name : Tier → String
  | low => "low"
  | medium => "medium"
  | high => "high"

/-- The tier of a sum of marks: a mean above 70 is high, and one above 40 is medium. -/
def ofTotal (total : UInt32) : Tier :=
  if 210 < total then high else if 120 < total then medium else low

def replies : Tier → Fin 3 → String
  | low, 0 => "I need more information to help. Could you give more background?"
  | low, 1 => "The question is quite broad. Could you narrow it down?"
  | low, 2 => "Please add more detail so I can give a more precise answer."
  | medium, 0 => "Based on your question, I suggest looking at it from a few angles..."
  | medium, 1 => "Good question. Let's solve it step by step..."
  | medium, 2 => "I understand what you need. Here are a few workable options..."
  | high, 0 => "Clear question! Based on the specifics you gave..."
  | high, 1 => "Great prompt! Here is a detailed plan..."
  | high, 2 => "Your description is precise, so here is targeted advice..."

end Tier

/-- Advice on a prompt with the given marks. There is always at least one piece of it. -/
def suggestions (q : Quality) : List String :=
  (if q.clarity < 70 then ["clarity: ask a direct question and avoid vague wording"] else []) ++
  (if q.specificity < 70 then ["specificity: name numbers, a domain or a tech stack"] else []) ++
  (if q.context < 70 then ["context: describe the situation, constraints and goal"] else []) ++
  ["angle: try rephrasing the question from another perspective"]

end Microworlds.AiChat
