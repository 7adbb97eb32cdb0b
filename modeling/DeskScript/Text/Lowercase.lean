import DeskScript.Text.Range

/-!
# Lower case

The lower case of a text. Every letter has one counterpart, but for the dotted capital I, which
becomes two characters, and the capital sigma, which depends on whether it ends a word.
-/

namespace DeskScript.Text

/-- Runs from a code point on: first, last, step and a distance. What is given of each is how far it
is from the last one, the number of its steps, the step and the distance. -/
def runsFrom (n : Nat) : List Nat → List (Nat × Nat × Nat × Nat)
  | gap :: steps :: step :: distance :: rest =>
    (n + gap, n + gap + steps * step, step, distance) :: runsFrom (n + gap + steps * step) rest
  | _ => []

/-- Runs of capitals beyond ASCII: first, last, step, and the distance up to the small letters. -/
def capitalsBelow : List (Nat × Nat × Nat × Nat) := runsFrom 0 (packedNumbers [
  "qP:#D$)#DF;$#&$$#%*$#%:$#%$$#&!#qd##$#$!#q_#!##$##q^#!##%!#p(#!#qZ#!#q[#!##$!#q^#!#qa$!#qe#!#q",
  "c#!##&!#qe#!#qg$!#qh#$$#$!#ql#!##$!#ql%!##$!#ql#!##$##qk##$#$!#qm#!##&!##+!#$#!##$!#$#!##$!#$#",
  "+$#%+$#%!#$##$#&7$#&+$#+!#zqg#!##%!#zqd%!##%!#k#!#m#&$#rj#$#&!##,!#pN*!#J$$#I$!#f$##e$4#D$+#DH",
  "!#+,/$#,!##%!##)3#p)#C#DU4$#.>$#$!#3#)$#%S$#%I#Tq~&I#vv0$!#vv0)!#vv0x^p(#rpt2#(#+qw[p!$#0S$#vR",
  "!#@R3#48!##z(=#>pzgS#TU!##*$$#*!##%!##/U$#,#$#(!##qurT:$#81$#pd)$#&B$#/#$#%&$#(!##(#$#&,$#/!#|",
  "L#*$#(#$#*!##)#$#A!##pyqN=#DprJK#LpeG#Lq,.#K$2#K$)#K$##KpykV#frq8C#DpxxaC#Dquw5E#F"])

/-- Runs of capitals beyond ASCII whose small letters stand before them. -/
def capitalsAbove : List (Nat × Nat × Nat × Nat) := runsFrom 0 (packedNumbers [
  "t)!#pSpX!#p;#!#]M!#p]A!#q3)!#qSte!#b(!#*&$#p]uuoN#rpT%$#rpTuG!#vzipD*#+,(#+/*#+,*#+,(#+0%$+,*#",
  "+=*#+,*#+,*#+,##+###p!#!#,0%#p0#!#,0##+###p>1##+###pJ#!#*0##pZ###pX#!#,s$!#vyO&!#wx9#!#wvTq|a!",
  "#zq1#!#r|L#!#zpm,!#zqV#!#zq7#!#zqY#!#zqX2##zr/quxH!#qyxF4!#rs|>A!#rs|Z#!#rs|g#!#rs|c#!#rs|W#!#",
  "rs|Z$!#rs|&#!#rs|@#!#rs|*6!#T#!#rs|Y#!#qyy0"])

def casedRanges : List (Nat × Nat) := packedRanges [
  "g>)>S#.#&#(;#C#qS#&&qb#?qP&$$%%##)##%###8#p,#pg+q6#J,Mq|?J##(#$O$%x)p0$)qrD,*O$%fPe1#Fp?r]$)$J",
  "$)$+#######C$Y#*##%%#*%&$)&1(%#*rK#&#$.##%()######&#)&#$&((&#5D%$z%XpzJpV$pA)&%$0J##(#quqdR6@p",
  "bp&#;%&#a($###(?$%#z*O(,*p)pwp0*0(~m>)>pr(p)p:H&HpN/#3#*#$#/#3#*#$pyAW1WrpAfpxx>fp~~.p/#m#$$#$",
  "$$&#0###*#g#&$+#*#@#&#(##%*#sP$=#=#C#=#C#=#C#=#C#=#+pzj.#8qw1jqpB>)>)>"]

def caseIgnorableRanges : List (Nat × Nat) := packedRanges [
  "K#)#/#G###m#&###&#$$uaqP&$&#,$##rA*qa#(#UQ###$#$##P#/)./##G#.94#p?+#.#&E###B?p5/_/&#$#<<O%P#*$",
  ")+M_[###&+&#%*.$1#3#_#&&+#8$>#$$^#&$&$$%%#B$%#/$^#&(#$&#8$:)##_#$##&+#*$/$B#c#0#V#%#[##%(%#&*$",
  "/$A#_#$#)#($8$@$^$&&+#8$A#n#*%##p4#$*/,p<#$,,##)p!$?#####[2#(#$(/#H,#p@&#)#$$$=$&%4&1#$$)#3#p8",
  "#w4%|_%A$B$B$f$#*+#$/%#(#Q(W#g$F#pP%&$,#)%qm$$#_##*####$+).$#K#+CU&T##(##(#L,0$D&$$#%]##$%##%_",
  "+$$f)p+%#1#*&#)#%$Ve1#Fp?u###%/%1%1%1$0(+$.#$#$(U(#.##1#41WEq~k$pK%pW#3#p:DS#u=#H&%((#p7)p7%qr",
  "v:#prh)rT#p<&#.##@&p)$2Fp&#;%pA%%$+#%#&#=$(#q%$>61#J+=/R%T#$&$$5#9$h)$$$$0#+#G#/#W##%$$($##?#2",
  "$($##p>(,%pS#$#&#pv~l#po5v[4%#04F#$#q9#*#)#/#G###S#Q$i#9%uk#r&#q#(~i)#N#,vf%#$(&L%&#q5$v[&t5$q",
  "(/U&pU#Z3M#$$.%U&$$$#&#.#V%H(#+d#0$X,.&$#p9%$##$)#q0#%+9$^$%#I*%(qS+$%##;#p.)##&$#$r4&)$#$?$p/",
  "+$##$pD###$)##p?%$&#(rI,#$rF$##&#pl&$$&#D.L)$&+#,)$%R1#$tH*#)##p+:$*#$#$pT)%##$#*##n$%###sW$tw",
  "E,ppv9(a*,&~o#e5f$#$pr~M&#*#$rsT$#&szJR$;v>%,4$*B&q!%p~[[&V+#2#:(#3pt@*#5$*#$#(rK2sn#c&pv<*pG+",
  "qym(szpwo#Bp:pZr6"]

def runDistance? (runs : List (Nat × Nat × Nat × Nat)) (n : Nat) : Option Nat :=
  (runs.find? fun (first, last, step, _) => first ≤ n && n ≤ last && (n - first) % step = 0).map
    fun (_, _, _, distance) => distance

def lowerChar (c : Char) : Char :=
  let n := c.toNat
  if n < 128 then c.toLower
  else match runDistance? capitalsBelow n with
    | some d => Char.ofNat (n + d)
    | none => match runDistance? capitalsAbove n with
      | some d => Char.ofNat (n - d)
      | none => c

/-- Whether the nearest character that is not a mark has case. -/
def meetsLetter (cs : List Char) : Bool :=
  match cs.dropWhile fun c => inRanges caseIgnorableRanges c.toNat with
  | c :: _ => inRanges casedRanges c.toNat
  | [] => false

/-- The lower case of a text, given the characters before it in reverse. -/
def lowerAfter (before : List Char) : List Char → List Char
  | [] => []
  | c :: rest =>
    let image :=
      if c.toNat = 0x130 then ['i', Char.ofNat 0x307]
      else if c.toNat = 0x3a3 then
        [Char.ofNat (if meetsLetter before && !meetsLetter rest then 0x3c2 else 0x3c3)]
      else [lowerChar c]
    image ++ lowerAfter (c :: before) rest

def lower (s : String) : String := String.ofList (lowerAfter [] s.toList)

end DeskScript.Text
