import DeskScript.Text.Range

/-!
# Characters of names

The characters that a name may begin with, and those that may follow in it.
-/

namespace DeskScript.Text

def initialRanges : List (Nat × Nat) := packedRanges [
  "q:#.#&#(;#C#u2&02(*###p[(#$%%##)##%###8#p,#pg+q6#J$#)Mm?&&QOG$#p=##3$*$.%$#4##BAp3/#<E,$&#(:&#",
  ",#%#;=*/(<#)5N_Z%#6#*.34&+$$$:#*##%&%#4#1$#%2$.#+)&$$:#*#$#$#$C&##7%4,#%#:#*#$#(%#6#3$;#/+$$$:",
  "#*#$#(%#B$#%3#5##)%%#&%$###$%$%%%0:#X+#%#;#4%#>%$#$$B#&+#%#;#.#(%#C$#$3$5,#%#M$#4#(%+%<)(6%<#,",
  "##$*_T##1*_$###(#<###.##.#$(##9&D#e+#H?(pMO8#4)&&%#%$*%&10#5J##(#$O#sI#&$*###&$M#&$E#&$*###&$3",
  "#^#&$iI44p0$)%w@$5#>(p#%/*6172621#%3XG#&#ip3*M##(l.CUB$(/P&>Z;,Yp+#p7S5+ZB1$.P>HM%.H$,*O$%M&#)",
  "#$%#(qPfr]$)$J$)$+#######C$Y#*##%%#*%&$)&1(%#*pN#1#41p?#&#$.##$))######4$&((&#5Mqy3r*)&%$0J##(",
  "#$]*#4;,*#*#*#*#*#*#*#*vD%=,*($(&p0)%#p4#&(O#p85DT4ujuz)fpx~CiR$rS%4.$8S4C$p)K,$pA$f($###(<4#%",
  "#&#;AX2Vd)%##$/@.;=A*S@#4(#..(#M;%#+8;%#%V##%$$($###<%$/*%0)$)$),*#*#O#2)pMAzvn0;&Uwy4sl$pDJ*0",
  "((##.#1#(###$#$#pFEpg)ql6f$ZL.pQ###%########pXH>)>/]$C%)$)$)$%G0#>#7#$#3$2FpUkYrQA%USD1B(J.B$H",
  "&+#(Nq.6H&H&L+X0/#3#*#$#/#3#*#$is3,:.+<)#N#,k)$##P#$%#$;.;,Cg7#$.:.>l])$f#3&#%#ANA%AG+#@?Z.:.7",
  "16pHo[W1W1HsXN)$p&A.#+:N6R9?;0Y^$$#1QD=>HA#$#+G%#0T2&9###G6#=p.*###&#3#.*SJ+$$$:#*#$#(%#6#0(q.",
  "Y6&8%BT8$##qHSM&HT8#aO1#m?I*qIPpNfC+$#$+#$#<3###p8+$K4###@#.L*#9#/R7#6orM,#I5#UBpJ*#$#J9#=)#$#",
  "D2#sC7qM#p(|Fp@pI5qTqxRp;3ppGsqYvgw|UvW*C5p(5B6T4&C9(7x:fpZp#(#h1f$##@usj+prZN,xr[&#*#$#rkQ%5&",
  "+t>qt2pE(1%,*.uqlp/#m#$$#$$$&#0###*#g#&$+#*#@#&#(##%*#sP$=#=#C#=#C#=#C#=#C#=#+pzjCuIQ.*4#s=B6P",
  "ps.*#&#$#3#qUaj*#pr8&#?#$##$##.#&####)#&######%#$##$##########$##$&#*#&#&###.#5(%#(#5svZrtt:Ds",
  "s,*r!$t|f2vxorqkv<pv>tp["]

def medialRanges : List (Nat × Nat) := packedRanges [
  "qG#vhpJ;#rA(rOQ###$#$##n/TC)#p?*$)$$#&$.;#B?p5/3.E,,#<&#,#%#(O%b+N<#EZ%#6#*.$$.5%]##*$$$%,#.$$",
  ".2#$%]##(&$$%%#80%#/%]##+#%#%8$$..)#%]##*$$$%*%.$$.6#a(%%#&,#2.4([##*#%#&*$/$$.5%]##*#%#&*$/$$",
  ".4&[$#*#%#&,#.$$.5%l#&)###+).$$c##+0+#.p1##./)$.d$)./#####&$U8#$(/#H,#p>8#.0&&%#%$*%&10#3xI%,,",
  "|L&@%A$B$fD,#$.E%#/pk#pP0&0..pZ/b(^.#A$/).:2#4U(S5/.5,0%B1$.P2T8+.).pP%#9&#)#$%qVfv^$7#pU1&#%0",
  "rqH%pi#p:DvH)pC$qtrM.k#&.D$p)$rV#%#&#;(&#p,$V6..)61/@+=1P&S23./#..S20#+$$.E%V##%$$($##M(($r2+#",
  "$$.pv~_#xm444%$<%qP.I#p8$w1#r&#q#(rm.ptG%#$(&L%&#q5$v[&+.so$q(/U&pT%Y3C/$$.&Q/*#Q.)%H2#.($P#0%",
  "T2+&#0p+0)#q00(.)&[$#*$$$%,#.$$*%(qP6,.&#p*80.qg*$,?$p+53.p*1+.p,3&.r83q5.l)#$$&###$0.pQ*$*%#@",
  ".L*#&+#,/R4tG+#+4.]:#2pT)%##$#*##+.T(#$#(+.sE&pu~g.p0.J(a*=.~W##[*&p*#/$pvt5$szOR$;v<(%)++$*B&",
  "q!%pu/Vuj[&V+#2#:(#3pt@*#5$*#$#(rK*,.sb#c2pv2*pG*(.s|:.sy|ydr6"]

def isInitial (c : Char) : Bool :=
  if c.toNat < 128 then c.isAlpha || c == '_' else inRanges initialRanges c.toNat

def isMedial (c : Char) : Bool :=
  if c.toNat < 128 then c.isAlphanum || c == '_'
  else inRanges initialRanges c.toNat || inRanges medialRanges c.toNat

def notNamed? : List Char → Option Char
  | [] => none
  | c :: rest => if isInitial c then rest.find? (!isMedial ·) else some c

end DeskScript.Text
