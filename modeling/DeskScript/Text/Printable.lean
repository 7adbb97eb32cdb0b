import DeskScript.Text.Range

/-!
# Printable characters

The characters that a quoted text shows as they are: no controls, no separators but the space, no
format characters and no unassigned code points.
-/

namespace DeskScript.Text

def unprintableRanges : List (Nat × Nat) := packedRanges [
  "pZE0#xT$)&*###8#t?#J$V$%#[+?&)5:#qP#T$a$p?2a$U$3#@$##/(C,p!#q1#+$$$:#*##%&$,$$$&+#&$#($=$%#)&$",
  "$:#*#$#$#$$##(&$$%%#*&##*5.%#,#%#:#*#$#($.#%#%$#3&$0**#%#+$$$:#*#$#($,$$$%*%&$#($6.$#)%%#&%$##",
  "#$%$%%%0&(%%#&$#)#29(1#%#;#4$,#%#&*$#%$#$&$.*:#%#;#.#($,#%#&*$)$#&$.#$11#%#W#%#)&4$>#%#6%<#,##",
  "$*%#&)###+).$%0_&AI$###(#<###;$(###)$.$&Dn#H&K#H#3#1IqV##(#$t*#&$*###&$M#&$E#&$*###&$3#^#&$i$D",
  "%>)p0$)$wT#@%p3*:,<,801#%#$0p8$.).)2#/)p3*O(l.C#0&0&#%N$(/P&>)/%d$g#A$/).)2$CUp%%S#pN+b%3%b*O$",
  "/+O(v4$)$J$)$+#######C$Y#3#2$)#7$%#,5<+S5$$?#1%E3E3ph&wm=/9pzH$D#sY(Q##(#$]*$2<,*#*#*#*#*#*#*#",
  "*#pXF>#p30qh>0(e#p0$pA(O#p8#p.0S#qste%[,sX8qH+q[($###(<a%.)]+l+0)pN/B%p&#/&E#[,2$.$pA<@.)$)$),",
  "*#*#b&pX$.)zvn0;&Uwy4sl$pDJ*0((>#(###$#$#pW4u#$Z*#DN)W#7#&&(#pc&qN%)$)$)$%%*#*1$$0#>#7#$#3$2Fp",
  "U(%&Q%p2#1%#SRp]A%U3@&H,B(O(B#I&2Nq.$.)H&H&L+X/0#3#*#$#/#3#*#$is3,:.+<)#N#,k)$##P#$%#$;#n+,T7#",
  "$(E%?(#f]&8$V#$(+#%#A$%&.*,*fDK&0,Z%A$?(>*&0*p)o[W1W*R+.rnC#N#%$$p&L+N:>J@8;,p&&H,d#(1=*.)Y#6+",
  "K,p:#8/6#Pg*###&#3#/)a(.)&#+$$$:#*#$#(#.$$$%$#)#(*$*%(pgp6#(Bn+.q6Z$JFk/.)17_).Z?$3&;qIbp>p,0+",
  "$#$+#$#B#$$0,.l+$R$/?n+p,1orM,#Q#2.A%D$:#2o*#$#P%##$#,+.))#$#I#$#)*.s2=qG#3V1|Gp@pI#(/qTqxRp=1",
  "ppGsqYvgw|UvW*C#.&p*#.)B$).l..#*#9(7x:p5p?p#&^*5f(/$2usj+prZN,xr[&#*#$#rkQ%5&+t>qt2pE(1%,*.$&s",
  "zNR$;,pNbr<.K$p!+pJ9lq)80p1,=pcp/#m#$$#$$$&#0###*#g#&$+#*#@#&#(##%*#sP$rl$xH3(#3ppjCr%*#5$*#$#",
  "(qgQ%2$.&$s<C5_(#prf*#&#$#3#qU$4Mp$&.&$yQjp$cqR&#?#$##$##.#&####)#&######%#$##$##########$##$&",
  "#*#&#&###.#5(%#(#5X$rTP&p>03$3#3#I.q>]A1P&,*$2)q)~:(4%1%pN0p3*0&#30&]+.)L+B$$p&sP02$(%(%*,A%/(",
  ")..)++*,po#[I.~jrtt:Dss,*r!$t|f2vxorqkv<pv>"] ++
  [(0x3134b, 0xe00ff), (0xe01f0, 0x10ffff)]

def isPrintable (c : Char) : Bool :=
  let n := c.toNat
  if n < 128 then 32 ≤ n && n < 127 else !inRanges unprintableRanges n

end DeskScript.Text
