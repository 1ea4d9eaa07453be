import Switchyard.Delay
import Switchyard.Failure
import Switchyard.Text.Blank

/-!
# Reports to the user

Each look at the group ends with a report. Its text comes from a catalogue in
the user's language; every text is visible, whatever names it holds.
-/

namespace Switchyard

/-- The languages of the catalogue. -/
inductive Locale where
  | en
  | zh
deriving DecidableEq, Repr, Inhabited

namespace Locale

def name : Locale → String
  | .en => "en"
  | .zh => "zh"

/-- The language that a text names: its short name, alone or with a region
behind a hyphen or an underscore. White space around it and the case of ASCII
letters do not matter, and a blank text names English. -/
def parse? (text : String) : Except ControlError Locale :=
  let characters := (Text.lowerAscii (Text.trim text)).toList
  let isNamed (name : String) : Bool :=
    characters == name.toList || (name ++ "-").toList.isPrefixOf characters ||
      (name ++ "_").toList.isPrefixOf characters
  if characters.isEmpty || isNamed "en" then .ok .en
  else if isNamed "zh" then .ok .zh
  else .error (.settings ("unknown locale " ++ text))

end Locale

/-- What a look at the group came to. Proxies are named by their display
names. -/
inductive Report where
  | disabled
  | waitingForGroup
  | waitingForCandidates (group : String)
  | missingCandidates (group : String) (available : List String)
  | noPreferredCandidate (group : String)
  | alreadyOptimal (group desired : String)
  | cooldown (group : String) (current : Option String) (remainingSeconds : Nat)
  | noImprovement (group : String) (current : Option String)
  | applied (group target : String) (delay : Delay)
  | forced (group target : String) (delay : Delay) (previous : Option String)
  | applyFailed (group target : String)
  | confirmFailed (group target : String) (observed : Option String)
  | failure (message : String)
deriving DecidableEq, Repr

namespace Locale

def delayText (locale : Locale) (delay : Delay) : String :=
  match delay, locale with
  | .stable millis, _ => toString millis.val ++ "ms"
  | .timeout, .en => "timeout"
  | .timeout, .zh => "超时"
  | .unknown, .en => "unknown"
  | .unknown, .zh => "未知"

def unknownProxy : Locale → String
  | .en => "unknown proxy"
  | .zh => "未知节点"

def noStatus : Locale → String
  | .en => "no status yet"
  | .zh => "暂无状态"

end Locale

namespace Report

def kind : Report → String
  | .disabled => "disabled"
  | .waitingForGroup => "waiting-group"
  | .waitingForCandidates _ => "waiting-candidates"
  | .missingCandidates _ _ => "missing-candidates"
  | .noPreferredCandidate _ => "no-preferred-candidate"
  | .alreadyOptimal _ _ => "already-optimal"
  | .cooldown _ _ _ => "cooldown"
  | .noImprovement _ _ => "no-improvement"
  | .applied _ _ _ => "applied"
  | .forced _ _ _ _ => "forced"
  | .applyFailed _ _ => "apply-failed"
  | .confirmFailed _ _ _ => "confirm-failed"
  | .failure _ => "error"

def english (report : Report) : String :=
  let delayText := Locale.en.delayText
  let nameOf (name : Option String) : String := name.getD Locale.en.unknownProxy
  match report with
  | .disabled => "Auto-switch is disabled"
  | .waitingForGroup => "Waiting for a target group"
  | .waitingForCandidates group => group ++ ": waiting for candidate proxies"
  | .missingCandidates group available =>
    let names := if available.isEmpty then "none"
      else ", ".intercalate available
    group ++ ": no candidate is in the group (available: " ++ names ++ ")"
  | .noPreferredCandidate group => group ++ ": no preferred candidate"
  | .alreadyOptimal group desired =>
    group ++ ": already on the best candidate " ++ desired
  | .cooldown group current remaining =>
    group ++ ": keeping " ++ nameOf current ++ ", cooldown " ++
      toString remaining ++ "s remaining"
  | .noImprovement group current =>
    group ++ ": keeping " ++ nameOf current ++ ", no significant improvement"
  | .applied group target delay =>
    group ++ ": applied " ++ target ++ " (" ++ delayText delay ++ ")"
  | .forced group target delay previous =>
    group ++ ": forced switch to " ++ target ++ " (" ++
      delayText delay ++ "), " ++ nameOf previous ++ " is not a candidate"
  | .applyFailed group target => group ++ ": failed to apply " ++ target
  | .confirmFailed group target observed =>
    group ++ ": switch to " ++ target ++ " not confirmed, still on " ++
      nameOf observed
  | .failure message => "Auto-switch error: " ++ message

def chinese (report : Report) : String :=
  let delayText := Locale.zh.delayText
  let nameOf (name : Option String) : String := name.getD Locale.zh.unknownProxy
  match report with
  | .disabled => "自动切换已关闭"
  | .waitingForGroup => "等待设置目标策略组"
  | .waitingForCandidates group => group ++ "：等待选择候选节点"
  | .missingCandidates group available =>
    let names := if available.isEmpty then "无" else "、".intercalate available
    group ++ "：候选节点均不在策略组中（可用：" ++ names ++ "）"
  | .noPreferredCandidate group => group ++ "：没有可选的候选节点"
  | .alreadyOptimal group desired => group ++ "：已是最优节点 " ++ desired
  | .cooldown group current remaining =>
    group ++ "：保持 " ++ nameOf current ++ "，冷却剩余 " ++ toString remaining ++ " 秒"
  | .noImprovement group current =>
    group ++ "：保持 " ++ nameOf current ++ "，没有明显改善"
  | .applied group target delay =>
    group ++ "：已切换到 " ++ target ++ "（" ++ delayText delay ++ "）"
  | .forced group target delay previous =>
    group ++ "：" ++ nameOf previous ++ " 不在候选中，已强制切换到 " ++ target ++ "（" ++
      delayText delay ++ "）"
  | .applyFailed group target => group ++ "：切换到 " ++ target ++ " 失败"
  | .confirmFailed group target observed =>
    group ++ "：切换到 " ++ target ++ " 未生效，当前为 " ++ nameOf observed
  | .failure message => "自动切换出错：" ++ message

def text (locale : Locale) (report : Report) : String :=
  match locale with
  | .en => report.english
  | .zh => report.chinese

end Report

end Switchyard
