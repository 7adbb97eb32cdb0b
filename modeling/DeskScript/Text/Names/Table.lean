/-!
# The table of names

The names of the characters in the order of their code points, packed, each after the letter `a`. A
number there says how many code points have no name here. At the end stand further names: characters
that do not print have no names of their own and are called by what they do, or by an abbreviation of
that, and names that turned out to be wrong have a better one beside them.
-/

namespace DeskScript.Text

def tableSteps : Nat := 364931

def tableDigits : List String := [
  "Wgo.7V91?JfNhmURZFe<l]4L/#+_ooE8YF?3E6Eg!q,8R#;e~q!UeaH[Aw)+S0=Tx%,!$bwLcz?6HE/K;zs&/#!|*Y0Y2,&sG4o)?zR|zdE68sSvc(@^6eCjTEPg0.NcDe&IFn]8i!Vun6o;N;8dY;0l:I4Jz=]6Vsw+L)TPeSM[lf~*>n*ZIlTlcXE*S)1AE,T:U2/?r+anfsH=%;UC%MBGJLu.kTC18uiQh]w9G4;&2I%9)Z&|@l(;&cl*Ypb!yjW$e,qGK<U]Qbn1F/Uu!0.]B2V@gM!]7Hd!75D7lw_qS,m<SMbVxj2R.F9Pn$X#V2>a:?cW7+1fA:NL^$k):j30jYYKSKLrM<fw&iCwHKg*u<x2/.rMVTi+MM+Qz)2fcUh~9!(^%xd(W&g_c7ENtuRSeVJiXWC9<I<+,lm~A1VtI+AUU/lTJ:e;Y@H2E.98?jXUB2Bccy(DmjWm;&J=k5<7?%x$JUPBP[#~7dLeHn>?3KZ6zbf:CLE()YHM]zWR%&2t]jLqVU&Pb%($5G.IQBBG.Y)9CyG^G2=0p2@VwW@,?z)8w!?0p.VVE~4^?TD+HiSEj>q[nL#!lCX#)lOv<mMk&X1>2G#ukuwT2abPyF~1mMZZJ2(_jd2&Mgz:Blqf3sST3Fe[2$+^XVw;>7O1,]>W)96SVBf?9E(vLM5Xa5^xyV~L#ylj0a7O~]?D4?l&)*iuo]yi&X&uQ*|9XA9~PhH8FjE6zF<FZu73Xm_Pa$jQ8MSl^e%0c2[CX?|!e&Fwc;%Rk_*ePf@4Bh@|Cczis90@wk/x<OMNE<ep]:o2vA#V)Wh_^*WP!aQ$E2&fL&a|DQ=P6k^F9/^Vg&R[2e,npZZ2=fuoTV4=rQZ_2z/cOn]X=Euj&/5AS<%$Gk/5E2]M!p~9E?S!FYEp<OMl&HOt~1]fP:_yc79SK*@$b8RH!N!v),D&EFG=z]h]&x:yZgO1r_ubnOA/)G<2$xEKTy?xPU&pP<xi))MwQznD+dvox*p@FK.v!C+)wF!<m75k9Kq1K%L.ihc,5$IT3l>#s@d2vzZ#j_vxf2USthmiZ,EJg)p/4%:#%a_*Y,F5bY_Hd*<T;SfP.*t4[K_XZm9;<PRaZ=*7CzRXXISuQstqxxRr=_,uIV^JGv2F#Dj>/HIc+!(Y|,P_bI][xZ)b@(@smczfZdwLQ0WyNK~f_)o*iWy:yj0c.oFiJu*p%xA<_C?,~SnsC;iq=H1HyV<~Dw?6IesStfdB]!Zu,!)k@Y)=Q@*Vel85;^7Bj3k%p[DOOz#/c,BYoKU4Qjh.66IYPk%9q.J>MveqaVn1cBG1KTA0^[Xkke>:0c*BbwGs+>pP)nN=O;y,EsxJ@;_il(D?raB*F=[|@3ZCF&/UM;3dI]nd?Wc?,2R(upbU/h:::TJa7FN2DD6G^CyUOc~sI^3iO=WTEcmQySR@u?:6SGk5hE1R8#!CpKWcFX&x=Yn,Ck207t1D!C$Fj!n!%Gr/dd|s28goBRCA56A2KT_KjdvCypZ8S526YWc8)6u)pBJVJ17euK*]8+^PeVKMbS2GlC&;Jz,9jVv%qHtd1=tSM3y^@;G[RK;X3ry(k2rW0|ecZFK)X!vGsGs8D?D!@NGBHs5s([:!OW.U7c8:YAjDS*]wHr^;M1pLZmUGXT>taPTHUm>WFz+P+B4>|?,AL?,w1jlc964~oTmO]_E[p7LBeuNy~B7[sn2iAH^fiWeffD9rA!=ad(d%nWoSWw;SdPSF6?6zII6RYpp?!?]b8$YczJg4.rO|~<l^w$Q25iErcFS./MDRbr9Y.WAj,9F>3]KQ$#KryGpOFCy?X*SI,?~+l/wtCu<E1Z1f>!h^x0N!mPfwZ^$(o>Ygb)N:*<xC1M|Ve_!vKq;dMP=;88$lvheEb_r4Pnx[&kEMh.enuigz=[#8;Fgc8oeDjipK83qy^JUbfTu0q9+|E|RH>X|Hpnpc],hpvYOD=fK|g/jFi<bH*$,kQ/[CPs#o:L46$:L~wl",
  "o6uWTpEl.8UQumF~G@dY/(^u0i!%|W|FO.?F#WeW5PYo0pH!G5=u/<Xq/8A<D@pD?FJ@!>U!^mBoOye8I*4o4R8%jkda0k,9C8b1lJMCr:]GsYVYnZ+0MYvuW>sni,G#<y?Xufy3@!*,F_(<U^8zw9M8,~hz@)?m$5;;<kzQZ&A@~:P/Kn:9gmp;YS#+%j%@4RmbUN|7zM4m3uTLBE)i8+&nz24Q~k]Qub*i>CZ(hr%/DSm0yJJw&G!6qtO/c,(s|NntrkTOtS!Lmr:YeQ&fgZ+c3o?U[fn$]?u:pXA+yrq9qF52C@</PHjTTd<co.&cB,e2^v*Da?Ju0<>*k<d!c#v7Y,A^T1]dg]=(JVhyXp~e~8IH;ETQDC?Ojm3yh_5[FcL;8v!9~%Xz4ykukkfOl0pRn~=g_tR!<CIYP0nG??//wo@ic*?g.z)qCPhR|9s2Ks)N&TG[o9/cj^ECijWnuK5ou81A3^t4&/e]rvPd^G3k1a!>y5eG+O*9]7O[8S<AQ]t>:=]uwRS3YjW/ulI1t[G1Z^~z0_i]/Zp*oDr/kQmn3luSl$2NhUEfv.=n?~0R,$tRkzNccM!k0xG0K=($$_&~+@gooBj~wD(<G6SK|J2On:LHDC>pYxZl/^bQZ&QY<kP&#q+g;0JB_Ff]N;d|*%rgX!Zc7A>Wn=6sfaK.LJ|TB$&ZUOL1@_sT)e|z<mPKgMnRR3(<4=t#snk_6HhGx!A#b^KxYMFd6a8ldgGPm=o44H!79:NIS+GcOG0/s!03u:%#?!#r*YwV6cCRgMO?6hmq&dMR*7&(DIe#IQ0+)iUf@=c9Ejlv6hJS<5>iK?.rHB=d5(v>YFJ)ry:z9@d**405yG]YE)0AI0tWXwPK=/>5PAH>CUO8MwFB|A3fbZNuH)wDvOO%iYsj5NxcwzR,@x!,iGMn1Y!;R>oed+PT5K8~JhMBLf=~;PL>&$?60]ex$>JeU6&9|)LTb=u&>QM)k58*1XKjJ<)8<wdHEP;d[RMT6qpc.$FfU#:p$km^h6(lc:nVZ2PY4kZ@(cC1ws>nvv>x54_^c9[8M,YMin00=,ALl/d<Kr2hIrpgh#21aWnqdkxA1bae,D%lHi4atUHve_(UaF#b0uDf70?|k]Rh)T6>rb;e#F3S+GQvo3na2BVitgj_2rpm6f,d]!W?jft(+NO0!Im[)f|n2N$O47$si.ulftG]=P?FU%2Mv=>vk?Fml#G6]QlkgPeDZ?^)XocZ?#yO*8*4AD3%0MBqw4boD$#P|67:<6bLWdb6eGf:RHd7l;Tag|c*7O?eM.~sZYKK7cs3qZpD=s7xeu*%Z4A0I.coPH<2H:#NFXrl^xZymT7yYgCW.!/9m6s7>1Yb.NVyS4.ibdk5eM/16n2_EgMrIU<E:07+tx^L26)sw&qT*mBDVf0(R4,U%8nBQ+4Go(HC<cn0eea]8uHK?hYqqu&&y_#J8FhuD5s!:1L&rkINaP09(|g1RV]%2T;w,Nu[_vqZjmttLhtpfw|WV(#TdWSB#GwAH#$kBHi+qU#zw_q;IwzMU>r#Ru(tRT]OZk@t3:/*XT$[V.9WyP^<F1bMgB|2CEOt3^h#O0767mKWX#BR:K=G>zP;)fEBIfy,Q1Geht;g<1/V*TG;sx>+Ik9gS1/M|R[w1uG[xr%Kb3:8~a|ilZ9@[fJMTF^%1SljN1WH?mh5VQV9wKb1d#+?cj%(!=:;oayFty_*543B)0q6aNR!z@|sKT>o$_XA2u|a7u7SZ4SNZY1H:H,x%eFKHi&ljDNl$,GYY=ULjSXc,=fM~HCUO:0S<wrAD;JjT<jU~OQUc<=nna#~83V@TV7#$>pd@(/DZcDDuwdZpxtd,z*_Rr^>9Iq,H9&#NGD1Bj[,)Sy:kf&1=2T<bxmKVlSCtpshQ*>y<#Y#pkO#Z_s||bhMyJV^i|ty/P.uJT#6pZUx(bT#WS^tn80~H<p6+QoE6~zHurV7grlS.zg[tQU](6u/8DeqapEOcs!x?B",
  "hP9Vl:uyWrSZD?vF[)Sk!1f6nau?cFhfumipdyU[C[[S58Rw+_o:KFIDPH2ACx(g)A)o)/|05cZDdfwBBKV:x<zE:ZO3^t4NTt@4:@oli5yK]JPzQ7JY]uo6BKijvoJ@|;kC^$LVYEw+gPcgmWuUL%wP~V(:h&Un?Cr%ugy6Hc>;!v,p$r.|>Q.eJ:$4l|8BB2^I>ekiS_vnxqUq3;&e2)]Ar$>S15^(irY:^QrNB?#7pToG&I*;%2QOquV4J]ZF,krX%w7GdD&2En8CDcJ$u5~JzSagZvLQc(AOtc_C)*jlp5oIJg9Kuor>I4A^b!,A)zaNwpbG=xMSUuxkI|OuU^+dELm40BYaaP(uv+o,_#r+7>%MfA_>5t0:7|))+E[KG.vQgvJ6y!|Fb5YmD#WF%7>Q&R<*|lJUqZ3ci>mwF+~>f_B?J8DcR@^#ieinR8D>e8$ih8;^HvGr.3Mn7,<|gF71$~JuJ56J:D)KXV5bNIMFYy(=viTvf<_IKD.Yd3@5].0lxqaZqpf53s$CxKdeLzVC&)2roHW|+_m[0<iH^DfgaG!vQ.B?Ko,R</cYb$.g@B7@P|)^9Q(FOX|mPSBLgkY$=G.y/cT2YT8>62e#3FhKK7c[*Ml,~han4Xl;#.OIX)w[?VUXxFpay0plV|4$|q,:lTEOm7R4!C!/[twrz[?uU>P(/dsBXOmR*4nAaJPScy&!vuvXDO@H8~HU)5xK6KLK(;V:$4,GLx7*(@3=7*zZ0vp$,s+Loi~>Dpw::/1vBcFZH,4UY.XAzG~%jXL+FN!RLlKK7d@aq(!>xqj=>Vt8QPYEGzRnhSz3xiGG/;Y<;<Tg6%=_=^R8$DF1(7/|Qyx69R$j|vJT^fN@>Tg@cpV^uQX,kK.o+Uzt#HqcGO]FHEN.jW>X~)9SRL6[,V/uyc5/o>?DYH04hu9!lZ@w_5&N#o=O/GED!L+1VU;%y$tbb:|2k7$&*K26WEcd05:.,=<AXaz%RcFywYFLFRaT%9.8L=gqb_tJKK/s)raOmj84.[oO$AkBC3TTK%[Tq7F21xsj~W@c%xhdv.E(_,54N^DA%FB1f*w<K,Gmhx#cec5X]85oOE]Tob,Y94*Uvb7<(l#J.1TX|j?=_Og*UBy2F4=&x$K!9ogmMXal:jFIWS]x=&<ldn+m~#Y/]h69XJHVHroqOW_KWp0PN_.U1&5IAT[Ao/lYBofnTC/pd^>o([]YJUhkQGiuSXPZ8hY+?TAGMwY,hqGOzl<hHjc]QQ0|:!!X?4lMdpP)VQ/;68z8Ql,%@Pje6qu*34SexC1(Od_E+9K[|<k1f)GMOx~~,GQuPue;UP[#<4!]?p[0K5HinfFl.+WOWQ3K=mA,q>cJ;Er)R]7syJTCzBM(6CZ!mYh%~GE#xfp,w[dKynd24>@3w_VC[:OqOE$aMM[du6#$hTi>PcJeTCSfEgCePwBQ#7.[f~a5bmEK@.]j:AJJu)|P%A5V|kS3W[kSAmAA~gEolauHL8kM(C#dTD=p)bYvjhF%W!LQkk2pj=2/0ptt8g2mRm!UQKH3cnQt|TN&v41&HIKmw;H4m]>h~PA5m2L3^9ES~U]q[owvZB$QmxFzsxpVJ!iG_t?!sUu]?30,.&k,yR7/KqfdhZrAiourmkVppw|J?,b54P>LW_sIQj|o+q[+hJO2q%oz=9JskMf;lO+6DLxw4=SDL*GXsO|+5=vc0Ei[Xy+)$K>!M_$gVEdFe,gJ=!9$%hpwPBJ/!)dK=bfpQrVmRcue<!&RI#H_6Px~F8w%|S|Nd(Y1?F8cm:9Q~e=15>fS#P:AqrwhS/&o^J/]@E3[o^UHXKnN5CEOf06Y,gr>vK5~YKszy1eIWnCtU?(m)iG$>Ga(W%c1y1V:]dhhgLUs%oq=.R.o~SvR%(x??urfCJ=_vItB~ZW@wS,:Uv2@GbE?)]y$iG,*1l~Exy+jkmi;TH:;RzpG?78l<(O6Z&4dj4:]0U]5(WpeuYKr>Wz(5O.Xo],w=U",
  "HH3q0.lnQ?LXa22*8/7:wxB%Wr3VT*kcL2skMadD[N^w,Mo<x|6H|uH8.U,a(>TOMUonlzUNukp26jgB~)CCU0(4m;3XlP[4n?Erj&jIRWC,_O;j;1PlEv6yq3YgJj&eo.wFj+K^ckwP|~yl0uHG4:D8_ZW:pkw,[@MQSr+_@6ZtGNs^Z8xfy>&wOFbayMSdDe1U2</[ndhn39fN2e.Q%<2l[:0|c??=xq!PW244VGR)h.U#|$[i>DX_@KQ3g/xs2V@F@42g%;??0;ll&8tIh/hlrcoO$Y59yd6*^r&|,<B$+[HQ.b51)e&M!H<W7|T$LJlGQ]~RtX4h4V<;w^*1DN2FGVI56&xR$vG^x+~xPQ(YFfbWa,%&82hL.x,Ti7AxdqTj=m.|NHU9lgohw42Hwz@|y%V=^<mEftw0[_oSCYhI?s>EmFes,Si?i;n:]UWvNni(n@Jx+s13Qs1S[<*9c:r.[uqMe2gVODQNVoN%S^;LF<+F^rbynvIN2;4DCo)ZnSw4A?RnKSeXcsLf+k)8aWOf[$tm>vJmRFMEVlKIzA#w^CBA%h<zBybnwnxgRew:M]lMu~mljzj@4IxJ8CD67FrkJ3t39UU+6$7h&C](R34S7&fBofkTfVLY|!Z_kEbcL_y^h;n$gMj?YG+T$*s9b:Z5i#qHH~P;r~8g^Pe3xL:*6<,)p_E<%@P]cWSb0EDqlbEEI;x]JOlum):T!tbmg;BdVcSzU:ciEt@:A%x|]GXJH23()7[)zy%YoIv>Se1mK!.Qhy8kA26z^VI/c;^)[^Bl?Zl9O9p]&.b;g/$M8KH;IcRCf_d^.cEhRRVA:,DDyuPLaKY56d?uYPrRatx1+i*UJhPe|QK$_C&A~u:XC+R.,yHw;F./b@z[Wv4h@5$pJKPQw*^:6YnaZo9Co02tf6SY]Ers/38*vf5^_9dr*Q&%>_eXIroW!OoXf+KjuY?p(I5_xP6|.p.t;Zd?4J#&+F+m6ORa^*&Np?~(7pcoVBR0etp_?rZ%]R:s<hJ<mYi+eJ^B]~UECNV<TyB55|t<kO%7AQBt??x^bYQ6:E,~.q[3zM&c&YB7Q<sN#KAX[wThsM)E2PK[xsOWMgsyYHa?Dw(^ylRJkG9wUC,II=g/_KNYNJcw:]LrCXvm,?[*9:?E6Lj!GlpGX?MM8.qw)E[i%DltX[m0<0sb)Q7)H^#6n8>0C[?ChHq%IP6Ob6*^UjpqnS~Kt]5biVXXIt4iJpV+_q?Rf8Oyi.,G[CEOnk:?s>6%ysCN)=*~kZ!YAqJ((zyUg.L~3on=kKoMgzGqwWY~ILZptIB8|U?yb2gu.v/_2t+@jxC]EgWPMQ$D4wZ.YGAfKiXFX/I>#3Hm,aV9KCab%Vr3jy7d;79@g/a>OgY<V=$A,_7$T$Y*ysv*3_kO)w&r5(x/Ajb#hI5YU66w&Ls_(,N*ju?AI3Rp[m1o|nki^EMuejA7tt8Iug*G^RABpEfAdS^?U1eJebMb~3573Kw_6ogncK2]Hm>Vcy|F0Gv2P[%!aAGH+Y)G1!+k8$PLxHkQ(pN/u[7NM%ig<%a_7o^rh;]?LY[3R4kwWKjHVfq^>mdSnH[Zp^L(O2(UKvQ8RSA^pq$_qvGes$zna2<=:Qb7!5n;&j$]d.~7BRl<aE<>Q.zRDLCEOT5NRzYtBY_OL:rur)S6OxT,4@[FPoNtQPpiD[ez<99qt/%16|=+QJpN7mV><Rq<uulZ)BXOWK8~wO,+h,xy_/Ll91yhXr*stXaX,NS=V;@Pw37~Hq$L@%Y2CuB@g@46=h$g8If95ip[OGr@7L%x[SnBfiM)2_UI7SWSn7,$cdTmlwf4&kdraR^@J^y=(aY_[ApA7luf]u*&C=|#*1P2j6QrY6N_T6&Kf**e6RT&5*=b3#^nPFa*l%eVNqs;/dsmsajS9<Hn@$xglMeBI.uR4qk9ql4]EPq~SbH[VvCQPD)p<DH!2SE2Xmq(IAfc_e4]<LaL$rHue<h@|y4mcvdX4%",
  "leto7slB~#h8Ms*y%C[YhrN%+!rJeBB6*z*FOPyzNo7MRF6je>teuV%%yLJ9TDM3xV<</:xA1$f#6nCGxJ$Pnh2iO!zQ9|_)N^T2R=Y.?<v]p1QNB7GXsWv(w#jUDWIS#tIX0$=#g4VkUT,iD2t&fmD3li+<ZN#O&S~#(.*$y0W^K[V4T^+c9Evp3SysxPK.F$~MZ!:)xzJiBEl!e6hB|eXX2<f[naP<wE@9&YO7ye~T2Z$toG].aW1lw$D*(.?1E,XZx!Mj47H)^(oqPcUqH2+Hwto$yW<!n4q0(bd=ICSKXpg5O8~Jh1tm4=14kf5)Wk8!WwVgnXWh;fr1[d0=YxzHS>p|MB=c%Mx39,<aJ0dEv7P!$qZbn=josJn3io[7*&[j29^#=rYi/w*J(NuCv;L;gOXod@E8b@9z&k3U9sN4|2hl%366R!CLVmF4T.xhPV.CXnX;8:)7eLMVZG~6VBuzrv%pDTJlJ6|&0,RHqoL3zO@VZx.?H(BNQ#=xe(Rw:Nc,;TlJeBSaSi+v!w<;+j~YUBLE<_]vuawx5LfV4fY#28hV$M(j3G!Z$qUO+oJoaHP|bdZCuBUs%I7V@,p:u&m0f+1Xq(y)6go@p7U,yJfb[2@nK7e6k6F*LjK<#r&ONX>.Eo^VEghLg9S)#m~sj3T7Ez!D=T+K~3_uoP<VvNSvRX]/$P?p=YS3K>W[0g7@EHsg;p9(sx(1T[#woY7PR(Z?Kmsq^fZNkbK3cy&6=5Y7[^w!/3[&.zqx#zi2Sga#yM[MHl/IRMuz+iUA4D*8:CpOK<PLWIYZPs6L%Q,f<9;k4Ct$Do+T2gVka|C!]t8#h*$_DT#Qe)XfMX!=ayT&80vXU#!T6Iefg8L^lmhFhMz&6ecU,6*vr;VY|B)]@58MU<n1Do1^7Voo4wAZW>R1L5nvq?J[;,W*KZIf^WUW>B|h96,L84*]e?&@fVG,:Em5BA9h]Jy)2I!u:pI.0Baw2JVWu3QfC|91B[(g|C0/YLI^]M)St!E8c!E#QW/f_?n9q&/b#^)KBH3=,k~1yg~dPnMtb/N)Lv*&RS92^34*NxNsza81ic~$cMnnPPDxHEzFXhT#A$:o4x=ufG#=Pl|qFHA/Cp&i8=d]y0|~fB$xQ!OW:k[j0Y=Dp8W+PHl3kay5/&wB&]d)W>vC<*AA6,@3mn]~mU?#e;RIZgag.@&JV=sQVx^+K:T6FFR2pOEjFo<*Th?nD5OJ&>KP9s4x)vWTu6HdIcE>yI=4fYu#FhhUM89aRuL~vbj=CQ*0BrBhn#=t/%fy!mEyCOc7v*%ch35NaA1!(;3&|*=~WD99g^;6pf?#~,3Z<a)XEO<bj3Tyjqt]JL)PH!6wSq$A?1?j&ywrO?S/HrhBw[b7en9AJaZ37(O!F1zD~d)pjR1vD;t=B>[Li?[*&Lb/Gz$P2gKsG&bO=0%RE84O>BH&3zZm|~@M/F<:3Rm[Hnh9QuPJ@gcXN1u&^g_,@ET_<)z,B:yv/tR.7X[X,[!Ksgt7l$x^8.33G&,$M2c?OS:lz~AJf7X6_@nRY]NO+m1QKD5m)4_gRc~c72ggWE6.C[sM9AF?_oajDU[ug;I1DT|Dd;7D7p+=6>%^Hvf*,^Q1kjhwpyJ8*o1a(A8N2p(.J88reEfPidMy)OgQhaf&0MWBT?<&J7G#MEIct1#kWDr(6|jP9oBA:Z~h.)B+6;02x7rPQf=!3QS.+&N0Y%1^trB2;4uwV@i;;9BAa|b][ympE<Wz)9C&7Qzf)mdJyj|^L/JA+qB1#G*5z$.tQJLje.PRZ$dQpS36;CBeNApY][P%#Wiqp*Ycb$N|kxZm*9y_B>0!z^Fe%]Xy[B[3vlL)Z8S=~B$f89W+Z+<)Lmg(BKKS;B6W4A:1A^jud&^!H(=J6+xepMylzQ]lu4E?j$bb$!|48kJ6os7W]ch<@X?n%]ve#8YH!HXh^A5b(18Dkpt*1ypefK21MAW/]eb8K#Dk5e(r4#r&6zDi[J[*Nbyv=1",
  "@E*JYI?tw%0E;@?9tf0)tg5_C]oqSR?z5Cm|WrA(H/|MYz_0S9#q3VdB?I9:0FX^&;U3=A3x#l]P8CV)$m;;@cVVB8)<cP,vNa^GdL@bBafGxehM3G!Nb?DG)zUQwH=ig2Yldh5TIIN$fFWvTUjaJCY9rMNp@5?Q8ZQ(P!$t?&%p<Ucwz2^X9HnW/rUtfY?BLN!2#~t3VROYL#lHE+w*cV8&Y5P6np%SVh|W5DX,r*Lrt*Zm;:BWdQMjf;0~aT2JQQzUKKU67r_^ks>!;;hruK)y2Wts>y9U6lVCx]@T,cYPlJ1eAb^HgWmx8/UE3/F~rL[~yC,8B]nC|QIaAG!Y+WLq6gxUwBxzVNmVT](;&[h)uwm_dz=qsG~2XGi,|=h/wrt7FXGDUQZV~S3D[At5]3MXo%;kDfwyp*qgLC9pGh9=nKraI|&)pW(1MMPHvqyRU3*TU9O@dT6==FGt20.GmAMi5R#0OD?h!BRbCn3t&,d+OO|vKi9wqtBQ^9;qO:D>g&,kbz%/u#pTri@kb$;)Gb.R3)83KiI0kkgMov9%_QQJ~k=dLWg9Audxq]s;D~[<$7=Z%D^HAXy3v|t:y1(XhZ<l^fQkYpY#TB&8QB3#|6,Pk7)_A]V$Q7StZFtBNuDRedO94[*INhzOoyB..w#_r%5OA=Y/ZD#_D9uu_@_xM+KRL)4$[[#8^CwY+*_%c(1(>PB;5[/0rj<#~Z~WQB,Ay0fD?YF[IuBQcwucYpdQw*x.)a)1pzX?KC|*jN2T0ulpW[/0JN?JWT..waa|n2F]Flib/X%h?>EHLm+3?s76)ojl.+Py0]z.Ll_PD;)z2oBOs5>z7w7NavnSiOKQzP,A#?A/7BquR^7dZth]ePR:Y6$2xp,?Ki<,58yM#(_m<Go:E!;[ug:OQ^/vlTlP<M*QmD9oD3iF(;[T<ET.&m9Ga7m=hUt2i.+gxEcu,eim*h8DJMndFdr~E:4d<;tR[ZT/eNCTaa>_f)e?O!#lkq7S3lCi;@uA6xu9ePc&pn[ZnJoYSVF#vMF/gMQCB*,$.t_VGNxPx0[g7[L|SxSn4nd*XOjfkHaK@A(B+_o(.&R#e01$x!*ix4FxGCX1f;#m0,Q_;&zd%bO]d$,g^k]CCLKZfF6(pQcarKtMP1nM6)[_uMox~E&)94YOMo@$.A2(<^j)JEhK_!zvMILoZK[w]9A3^j5C5XrEloO8[7WBU:(j4fS$JO(ZoFSUJO,tKh=Ky01M5v2H*F#,|XHrTtX(27?uhUZ?9X(Fl+zylN,a|9%P./dXe_VYe~G_ElBqBMFfZBC9_bqLKPrZgQoQmb+.hS_iPpQ<@%Qfyh_>os$eh(?HBNdBl/PSkx>Lf|B^<M/XET]*H4V5Xi)iZ~D/|55blNA%;Fr/.*q6*[x%Kjfe#/5Np.2cz&Y=@Hu=C^A3EU3!18TVTN;Vo0w)B4AF[At$~;;U~weJ&qG56|^)xve%Hx$B2mXIW<dK<_xAQjl9~D(r$bl|ti%cz*oDwT2AKDZ>dII|w)vNI]+S^:m8nc6jIqKw@;SJUQx[T6]KHqxMsz[*f|Cp,>>RW5d3DJQRS>2ZP?UC_&9U[,o,|bueKsv8_<+93#]xCVu3YS[a0U:Xf,t*qT8FFAH@vs5ZU.iZe]=Nuss7lhvWwwKsJ:h(Zf;0q56.n6uLW2;2dwDe,1Qhqnh$$ziz:)TP(#d!wdr+nI9k;qHj)I?;<90zWJsX:#LLz&O#MzkH0i(Vc?)//:E_Uk6k9%wmE/)K37v3dzN>P_X7UZ^+gU1X#A@*gW:?ZNh0NwrG^h>Bq%b8R;ycUX3.AO8YS/v.*TfFSH=k$riw1~5a^O@]v&MuhDx2Z$q;@;ZKm!OR|m!g@^fwFc?rO=J~0aZQJ6fxQHX|?.%:fqAGUO>^A,_L!U5G]0Q5Q$|HhYM#gC$Y%#O=EKm@!_9RFsuGc2%ViIg7HeEz]y]>bHAW&7P8e+uLAVGR7>P@:n.2ow2@>x+%6rolx<M&Mi",
  "?P#uI)lbJLw1>(gwLjLj)SfJ5S9L*jro!fYW4[uKNnA91CI$Q&sI>aDD&twELKKxSz2^>.[%MF#9O^ou#/U>:@IuieOdcx1ANVTMv:PeHxlj!>Zfkf.ywt&wPt<N)kU7XfQP&OBGMxDPpT6|yO!PKrZtY&=Yxw$tl@Gb]l9~BW@HJ5bGdJ(m3G5?22P3>*se*8OGGjI96#v>O>2O_a.5|+FK92:4E/yh.b=:5Jz#9WmH;dZFh3a2SzR[CFrx5YmuDr&TGO99%#|@5S>]j&WK_WXm#jHiBF,L|d@CNsrllbGGn3/@WS!|K[k#LiC(:a6=|1z($9I$z!rwV79I4q:FiN$:uBQv(FOwM0VF!a5V:LaUp82;_K!#TC*z<CotwKRcXmfoFMoV)*#D/Hry8U,(6R0?/Ajh1H@6Roc53X?xF?t7<ws_Wcow;GzjmD0c)qG,z$Z79_SXDe47D<ge[R>tj2(=BF/:Y5H,mfj@GnSq!R([TD7lBk%C:!p)b*7)5f+[%MG5r@=N,#@j4(:w7JyU;,RP,sxqG5,]9V)Fw5G;!SgH~vne*5n*R)A$4e@.=:wIw63MP&?;)$6~h<+^!!@(U)Z4+?5@w/MPU:cEEdP<D$,oV>g.=>5[3V>PC8AUb]/>s97wl1)J*c[UXU@xe4a(.,7XlvidjkaADd#Vqh4rJi85%*P:7$a)OJ,_RyT@TkgSe<df<!NPh[KenCSYwZ[T)CT[Mb?04Udx.f,u:Q_g//(w%KmQopGJvd&(Eb8ctEEXScGo!7~Z4Q%?FF>rk.^*mYWsrR;Z@Y#$EymU*^Z57W^+D7bTA5wQ3Z%:5I@pfJ.T]:eiR?]*TzVmqZAgOq[ZG+?kzT:NQu5<0%h/AA^PM?Yve)K.E@.JTI3UEY#c8:~JV%~p8PIoa/L%6Vx45<)d4$KUCL;4V10Tbzpa!t,woR:4,m/?6cri9q|rM0DXRGE>=a*5PsIQ|Lf?*]3JrPQH|$7$tl3yj#$D1.341<z.F&vaY@||d0N]+]dIm.a53tGB<taF[T!O$DUyXSxYt2@w+gES0qECjSO!j3<*06ES*)Ajj7%Gap#DN1yR34&f8H=$v#2ouoA*E(*Vh>I:/_t$[+yr6$;(#TsS~o4uciw^9BpHd;:&y5meWx4=:F+Y|$(*sKsl:NIRx6uAA*kbK4*r8~nm/j3G,ZXsbPxVAREk:#7Rg8]etp1G)m<DyvczV70Y=Ni~R!FEBU<8+GJ.q0.^c8Ix>l;(iqv6PkaPJY&kH3KT]^1^$T]7^UTB&cgfMAg6Er#G)XLku4,lu3ZZp)._F8;#:*e/PLEzWXXMoJrFZev1naS5%]Q0ME?4l9;0WJ@wLaTklT+7@A(_Zs.+/f!1O8*O?k<Nv0;<^_icV~h^nJY1:HuM/gvG/[.7OCxihjZMbHyL](I?+K0K|l_p%AoT)Bq&)k_!(kepUZh~$#=OACE=rFA*h$k!_P(zhkPT*)V$B3>qL8,ruHM2[ue;Eph85~rfI!e_6#<rcy%>hj,F,q_uE>gSq=anhtI%Vlocr+BfCOuQhylP52Z=b7k^L$37$:|FH=m~W3>|Y.rv]r::x48$!]$lf>Z_tTt*pSfMkL7L9T[:+6x<A:5Xy5XSS#q<p@|cNC*Gb|:pBl$kd2w02iYaKon]F!H,;Zw$rj)4p~7Ag_%[:Q,P<+^X5f,bW(!!>xgD:X#_,zqt+!HlszWoh&scPOLS2@Fu^p<HUg%$8FM.kGBB_|?+7kEGSdlC]TE1f1c>5O~j>|d)j|bZTca*TTu_~H50!@xCAu]ul8N_+.^x##2HPVGVu*~Vc=$5hkkA$S?RU4yqT)t+HZY8X*|MOwu[qC:PPwXUoBoOhi<)I:#^MaZVDr?+b&|)7*)Me.1gA@@:?E$L)z6)z+/FZg2/_zCjB%EE$?8b;A~X7s$^VUSt^=8e*XQS8[gs_b[6yYkAG(h]2;,M.YiD#0$|)du|F6]61.LjnM[~!8k.9B1Ep%J+Kpwiy9",
  "A~ga~M)fx6(<+*Ktn0)ZM=rI(mPK=7/LkvEnHdRL4)~Gm>jfk$|7U(QnmM;6i);U=xB70(5b$Xa,O4Ri<V[/&7~h(5e&dV#[0?jGUIjeqcC=Lr!&Vm.B.+s5JDDBc*!|;c%[2;RZxg+b%Y(05gqu^$oIbi*ed!)>Y!D+f9aKOz3Z)MywO<sCWGsUKLrXH~B0X=oz2ik#(bFYkh!tHA6La!Tp=~7^SL&a|%dt,[5nd$m=&%<FCW,iw9;Ds|cAo.0;|H6RZ7Q/jU~9G9U?7_<u|&)sMH.;,0)4.^^rj.5UD08~FF30ioD2!J>;i6fm4]Xpne(#Y^[/CIa,i@!Yo<W,#7wulyz_ytTfn~:&u^n3I~)=5(N)ebCsn*VMx>~=xg,621l..HjG@=s:ZmO.1i1sjrRzLYa/SnQf#JQV<uP$b_ilxnB)C^i&3dyR/&X!LHLp/(pbC2;c7|Yfrx9E5HALx3fztbJ2)+N)T=^kIC^^x8*/%@Dk;1P!0%0Cv.yxX+qKudnE_oeA$y0)u2C8c+i(J2,ng>:gM|NM6mO;]yLkzl+c;QO^K81O2LWEPmVRLz6[*J0c.SnkssuScm2^,*01NU0S/1[Y>~)!b3^DlkTlUrA1q>u1j[/meij(t0y221^F[3&hNr,wRh%9s|7XYZ%QX22^8IF/9IBBURw*OxUg?Kl,k4sZRPTUFT42m~vNW3z!Qf.46)!sSOTf+$q9!Dx&st5BF;EaIfPIPbI|zDgx9$Uk5s,k6^DYIc:Ur9~eQ9RNFH9K=zv3b5=F;=PUfHtgKXoa,.&*Z*E@&Q9H5<Eo_lX*#golM,T:]h9jUzwV_p![&@r)D<XD;6S$]@[y8$Zrbc?390N9?lUvQek9HRNHL#MuQc!g_%1b(?VSE2c.ayPjk!e?=.h$$iBIm4uq.OPL]^u^C=MSN$2Wi3/F6pA6nV15u%#N*SwGVwmY:J[Tu%WO>MG]RL!08dE.oN+=;v](G&~!n<~O7e5xFL+O15oIB^9k](Xz)VR&%+@HJG$;r>)1f9Xv>h^tI|L(D>cu$/H&Q@I:_[zjjZAzU=m@@ppVQaCRY_^82Bf;a$9,MarnyBfxSnN%tbGEV<23#I^Z4q3Ej5O=y_L>10F:_bxbRpGRgg%vS~|wiQf?!vckX@=fr*,WBbOOf)X))Ui9jO/>ZwC0*FNJe(J8|kOL?Pmt;;!c,1#z_PonrP$(tdbl3%tu=xy9,Yl@NB_NVK,/#_HFlf<OOP]T#s4G9Ow4&9xT#]4kF;O~^QBC,>KB[DaROvtct#Mtgp5^j=qi?]<?,s/qv*@GCK&d|vk_?3+.?BbOx4U]do<_o56Mi$b(BTS^#eAar>R]201iiCC2+e80yM:4eon1|Nr]iUN;vcr1a)g7OzPHm>~ts=>omh0%NxDN!3|%/FPLm_A_%E1,g^Ei.,nHI<9oizUX[6$k:rz?7WA3X;#3eCAr:6PE_k7bPnw+C50AY^QNB4kdQbdL3_#U:zJ</g,$G!8IQru~yd$TqISBbB3V*HaNHqF2[iqXZ>8y*Q3o&c1/+6Fx|Ox2iLTXl3lFmrm]WmuQo)VV(%/u_)FU*8]V[HPgJ5ZV*KYp~%]Ng]s>hTqUb0+DN<wOV4JLLv1)AgW8LFTS/+Nky;nlRXI?QDm>!^Tnp(%R2|jaOJv0A/0K5oq3,_GyX1#ki$Ti[.>:h!=::0y06wg(z15bZe,/9zN(zKwhsDl.nw;[Lp4*NNPB5I:wkG[J=yv]E%)JtR.<PodY!QR*B1!e)=2ueFGsWQ^[^cH7dZ4,#EzjC&ZSvWs#;H@~mqR[n/f@w5U&k[UHfSPb$RmadN*6U(xz+GjJ?q=e#j@dvh)*TKhko(:2,W9Q39yE&k9t(mN,fvuO1?o=53k|gUL7Tp)W<uqVwvO;IzMGh(PSx);K~s^bx*GxieCE+?*C6I?.9#)~|3iV<hMzYq7fY5JquiqHe$7<_P!4vdVo2GnuN&kX%yO>5axp;UbtrR;@en6:]x",
  "u.[MlCqGe>r5a*5a!$jSLR0%*7wv7^k478>:T4AWTJ<,tR@xKsxe(N6A@msUpj0pQDmms08XJANLxD^G.]x~f!?5*bDV6XZ=Nco2DR+nPzLdTyEDXQAvTC651fpR>rTS|9u36ekJTuBR_3|S[vXy9LbU0g^?!7y%2tWT=^,s;7a&@FH%|w!P@8lvk9/JE84GJZg]r8)de./!y+C;9qF,u5~[K.>]@bqbLs4N;m_98U46gv]#:XN0wlSZk]sE2%?S$o=$;MI|QZ%SB5Nc?*uT~3Ycv3m:oY?X1,m2Vu74dv2T(ZjKa@u>)X!psDybF2Ul!SF5dEdh>N&Cm0sVLZCYvEf#OOCvaITygO;3n@UVy=XYz+5X_jF|&Ga^gw@aW&#/OLTfhV?CAHD19ReZT&?>S:jX&mP_Tq*CkmSJl~>Xf)q(ZM,e(yXX4))w1J%206ErFZQ5.rFFcs3g%x)lcGU^Q[hAGmQ*fjD3pFS2(B=3O0,ol==O180p&^KA@vy*BNpCQ?zkb5#.)9$/Mdv!7FfIV+3Icw6U%(_>udjhuPe~l+Qn]2HC4|8]g^zpt>/P5L(WWe~lf@xe5h8<5g_Kz]Mu(Y%Z7hOGE(*WM>.?w+q_e+3ceC5meyp4E?Mg2AwDD>l,=QyH/>59Z4C[SJR]zi5FaeiYPl5?EiL6cYwT?7y),;XIWY.Mh%jwfq.S+b=]H]D1?!XC0cwd8^6V$<(5l%/;~jngdo[NJWrfY)WrS>G2,lsQ9/.Q~J#<&+lw6H2Ua#9p(eS.P.(1Y^PLRNM*e+];BJiU#xkzj8Pa)$>dnlNiXfyI(YEQ>)Y[#[XDUrt(6(JS&iX<nULRwA0s5i[S+9cTw87vD(m=)go@rc0K]at9AL?O:NmWVaO3RSLf<j]AOSi)64iB~_c~]&[H@D;4cc/|uKJ~N_Trl^:lz]Bs_Hsz)PANl&E!aZwHf:56PTFw=BGjIl%w/?]FbQ1(:Tpd/?vPVO5wzlaBfzfSyzSM5r)ns|3l(FkYv:YkP4+A&+bE+IBb26*sSnz=V|]L7B=$OFq]:Iqmha9els?LRa^iLv2TaAXaN+IDc,LDA0f?G3S5d5Tw,~;eo^wb+HmQ6M*tr6ONdG=)x,SB,c*C:W09,Cd2=>428eEY,2eWDHE>zqha))kby?e5:+7x]l5&q&MKN:!5.2y,kMhfQx+&dVNfD$L@pcn;,|_,c7<a]PdQWK>oVsbp=k.|(5z6ZqL%r]?9!hc|)$Iaf)]^2KD[^PeA@;l*LEqE?jn>gDm2E:%AdSLY!0d@z4Wk~!cVa*,_u]r,b&0vm!*Df*YR+$p*eD,,]~JDal56owkWWDU28CI<Z*xq)TE[0xe86zk!cV>6^8jvc$wm?uUj)!@;#z)TZn6$$B.]4<7VVT$b/D.jX%k$u(d%A*$;UdV3B?ZctQs$Tx<F>AyUB,y370yA6Ex<x[:qGjMIoE5BE;CJ$W1JNZn9mvL$K6&Nmc=t<eAy8X1TI%0i/1!ddQryn&(P1<Cq:_Xu=xj*mH~p7F5qW+mI1vL^$DR[0K&R?IfCN_suiRqn#/lHnUs)&CzVAeT3YbIQ$ljzk)Tr#baUu~^Fx7sP$/hpCvw1(?bzv7DI@F|TC~AUqeJ#!4.Z.LZ9GQl7f;j$V4~;V0DFyU_h<l<6BM=2B7mq~4@noz*G8@vBrx)).@n3i~q)KICukzBq0i][|kEZj%;^TCnVp2^:ZPW,$7;uGj4J:3QZ5VOX7U0(QPm(cP3az/Zn.xH~Hsa;WPF$/nwQRLZdS<tMQVW1hrp5Ej0iF4a][iW=Kk#q@@mpLp!qRXb372Mr&7BADh|*bhkP[4?+71tHE^oIrYr;v<5Y]Q;|JXsiMH9HzA^8j5|!!3z5[/QmBpbNFuYMG*Bh0,te*IZ9_A+N.UL=is_)%K&r|fIdKEnH~qL!Jkv<~|/9C~K1#LJbQhn!9Zb1g4219oWY~W>c?sm90mm.+Di+CN0~F*_#~@:/K^7Kf2_zj^aV)&",
  "v^Nz||[;jH/3tthA$w/<so+XbBIHPdpKlu|=aaw:TT1=&1zw5LD5bFMhaYUZW:grzTD#02xMf)@3FqHL*B;mWxhkr=1x3k(H,H3zE|S)U!T[e%.*IJ5F1dw=Z6mt8ftf[jA1Cc0q,|)>UcjN=iu;da~uXSQFg<hL.9]i>p@!=;Lu(S51+TKkrgK(f[><|/8F~Hsy4/#G(X0sEkIl;|RoD#i).HdtrlJSj**(%]Bw40gJwH5jsgMR+1QJUjTXQl5q=n!HF:];7Z89]xz3^a/qqzooW5X/>BKrfHtp%84#]Ufd3=db&Z>A=z~NKKG@oO9CL<Lx.cStTjxK.okX0[wiM^l/KIWSC+(BHjM?~&t41b~s;WtDvAXznmh]1X,zh/T|!<((BY|<]U?((P2El^@H7J)LU1IhG[vFMJ<)z8<18=JdNFR:2gLDoyXB:VU36_8(K6T2~D7bP6ji#f3g#1ddv%$vuVC_lV.24J[gnnw[&x&,p:>KOMi6bVQK62nG&wyHH^,(0]!CL0DZkmuLYK+Td%z1)ikst<jemsAn5hU5U$3s|rs2sYf?*7Wx$*^;Y$_$hRki)Nc5#i;n;O_9j>5:Y%n]D|;DJZ(uOl;/w<d]VuGDnW]oGXv~N<,!ScGlneTbHE?QY&%SiP8sYu5s0F)6K9i(t0b|MW<tfb$^m;)f;#_!_PiiCcQdq!iPO~sts|+q@ruTktdx|:0aYQzh>NPi=$fYPw6IFG2]V/j0G/ioG^sGi?Z9By%2;?GqRzj#ogZ[>rD*,n_1wK2(&h!4BdAzn2(_:]lZmpC>/?:a^gW|$Ho~KD8.r*w7m8%_9zF0>f6#dq4~%mdx]X7e%H>5|DGz@&8g@GZhtlXj~>#8@g_GoNn3aPuX/:Agc%eXG6;[5BG#>nxf02X,GcfLP^Opt$GMTZRj+EWe3B,G=H8y5+[H,z!<]YRiPJ4.yABp>S*2a9|&1C3>VDmtW8Gp%Lb|x]%!l(I6i*4<0mK)CFrH>2ugI9jAH~6;g(y1g$0%41h6+u=)1MN,mou19d&OPRSBwq^Mwfhtjxr@SYk,jJKo7o),&|Qk_JJV>y=UPw*.is!]>RDG];*sS1wM8jt*~7ug+3n0G=eFVizfM<nQE0DEic#tVA4zZT]UP@X)$cTdI]Ie9&]9icOw</[G+~w/G(XRsYi1aRMW9Z!S?03Oo/)|ef%kVr_+rje)6A3]lhaLh?JXGspRm[[7PGb4Ga3K<1$)hw@~MV:)v(siadA89:V||vfW]ehn_$n[>0utVASHR?3G)i8a|TxxDg|:bd;$gPx*eC>p*f]]zkh*fx>2EO~dS,1P=<*tRRRg%dFJ]2,aLSDFgf4^_MZ+np|0IZIsJ!5RSK0w]C5w~qRy8TtfrfWL)DLmTd7A*!#a<TZ2#7iR!!9;]L/G[s2K#(ph%Ym5a6c;lQV9TdBaXw&l2s[0S;r@aNr1DcWl~br5<L;TH]*34T+q%g;fe/vvU$e@tXcBLsebn3WuV>E~),TRDqQX>3%[x,,9Bg=m+88/e8cMhm<EQ80E5v?h12OFv*dY+9k;)r&mD4l#x)o85%8jHWM37o:N.m_h4ZqeTjoo%iGfv[xH<50b,XQln,!Wf>L&FcLD<;<HO;6TxM*Cxptz|&5d<tbed*/+c*UMl|sbc~^6!zh[Zg0Cr$PDN:Orgg=.;U^hs<O2g[nVg/pNyiG~eJ$JLV0uTI2UH3=u!#*K59Mh([^B_pz8s:imJYG^9O5a5$V<]:(Ca~o5!WbL~m~ahp1Su2yNdE>usuhbb&Dxz;WqIs!<Ead[p,FjgnZ;l^KP7LvDRkz_Td/!.I&%5@D&+sPI.FtEBl[?7!UJ$Rb?FY1Z9auz4^QDxeY/q9_h#8vL2H;nPV0U@9B2@A~AG%2=XQa|0hpSTC[oosqxe,uRnj,s_v^.yiX;caVeq6I?S%cii&VlhmLp:Sf#yCq_$QNsO,h|,x<Z;Ly[qhwSXnJ^0lt><o!pS5#Vcpxi9V*.hL",
  "bQd!gW~Ya0__3Kj;Ok,OU/BuGDD$~kT;Up2|KCO^~ETWr10;0&%_eQc)d^CQdl+M4ugS+?_KrT&zo8T0nXHomLkRkm%)I@iv4$dsJ0r/lyniDpVqX/H2^3o7.=@Gjt:HnA7.62WEnJokaBNh_4sR;I!|G0D~lsgnY^5rOwN0l&PoZ)dAW6Ei;L4r[/CQCI<w:Ma(6_P[/gNO]3DD^D8uNI+L6D6)_EVW@L+>@0s>wD2vxrE].9hlP;HFpGPCB,8Qi)4eXO)[;A>m9/:$USZ5K<hF?%y]Kxign_ca]l]EYa+*[7[m;eeHBk[kACc3TK@;G@]<1GW_V]],A9!HvaVny.[74F7ixfj5nUbxkWi<L^ad=5]E@w;2zb<dJ>ekZDM&(v8?aiO)evUB7l7mZs5PA7x@,J@ruqGyXJuBo<c9kH$A6O654t)_9=UtmYn#bl_rkL_S4~8Rqga~E!SQz9SATeh~3pQPtMZ+2hnZ<JqK5&ARqjPGydUmkYFVKlql6pZE,B.~4nvFCRe5ol7O3v(x0JK99Y>bM>a).eBnTD:muj<1O2$JqA<V~<CKDIL0UoOI6!dm.3O,?n>&roH&N$ZJpW%A0K)%(lcqp@cn]9qI1J0jWO.GoB~)+n3Y~(&0>?ms3+KwweDiR[6o0..V9iLpQMvk519(Ky9Rv2iTbI.tu9GOr|=I_V,jg&/;Vs7^*9B085XpfXf%+M)l:86Ua?u:ft|L~(ZTl22,L?+6ijgw,%x;(;hBPWC_4ks)ziqVdp=9V=]R#+z/r^?x;6(6MgoL]u&P!wNltPAj>in)fb$S2@x4tf_:Tq(HX@a7+s%n]51tz]f([4[!YS&2OC.L3px.P4!c)0X^m1eXSVp)>cBy%b8h]9jcIq<^@4=<v)xN~_CfYH/aiHie?5$lba(0KlG>nHxnMqiM>o!Fs>a,E^h1<#fpHls8Y6C4&o+;$(@I7&ho5~V0Z#Z/Yf17+c+.[T1^J$_9ewCU~|=[Bedh*7BEW&8whpG>ms[0T,Hi#VU)!hV*FVKJDc*Da,Rfum+,G0wVu$B$?r?:j<!v,|7ziCg%oERf=]&6JU+<po%6s[U,.Wz.+)l6(&n6/RF1f;V&Zv($mhe6QUw[H^BqpWz$a/9ih~oI:d;]Mg@q,89k5Dwtw_eBMVdDi5h%B+]Acm,fT]>aA6weGLk/s,)(z4lrl|,YtKLRSwVMm//iQ,5i_wcentylYB3Hc/qC6fhK^Qt7wRpLW+v[^[*]cmTgz)arcL9$Kz#+K7fa1yN3_RnU($.Dj9E668fwyj;6p%%WqC6Oq*sQI4*EonNd_%TFV53f?EH@it|fl7;e36#d51RNF!3GQF_48S6Ck(H0ha5ribDj|YJK1%)Z@i?FMY:JHOU<n*p52z)VlU50AHr/tWCH&A@(W3@D@:KvP/mC*yV7Zzb,jAts#.;!Uc1x].3J56[Nq1z$$iLT.C:*SioUyHUl;mwxU|NUm3Y7_Pme7Pi~C6>qJU2)q>9Lmo%U?RW:,!gT4(GGN:jQV]wUV0A7u!.gHr&My8n[A[Zw9RfEMV|.iT&2RIl,i;pCoB+uHvzmYBk_iMF9tU,mX<uo*dC%E;zbfSyhW,kHaXJmwxz*W:yUbS~gC*6nc3BE?q<h&B5oc)@!:CpSU|iFh>f3aogG[$h=ZD4Hvo!)EJVF(TAf2udfFl5Y1UjmlQJSO^(6I<hze6scwbHW:!3IGm)AO.vS1<_Za%x3x4fE$,g*F3P|?3C[[UjAjMQ2O42CvzTl,d+|fB6Ve%6wRp:yuQMhfnjJb($puGz4T1nGoNkbk/WSWU+;&wm9%[xLlkGAW=tz4(,.Z,]IC8KPd6LAhPy9x+yntdR1fvh.D,Sr)O==RYNdLph8Z#Rk<eYOCuHCTe?Yg/Qv$cFU!c,.t|g)]OZzy:?*6%p7gfQ.[V.wmZG^_&GgNnIYq@Rot5>Z;cNxcc3%Qcn85E|b+UVIUv8r9>o(R8KXO7Y<jKV%~@rHx?Om72",
  "R~sEw(]_,W?:qS_VV[INBW1eBi6#svw9.oLRc!Ck?@^2kGD:*vv@LnM%%(%FeL)Di!V4o2$@CodOs69HU$,!$COv1_R>Mgu~mT|q0VPdiS$T,XnN/O)b4hP:IXLUJj+vebv[9oEz~Ve][Qtt<MJKn&D;nni$gO1?muPIMt((q6SeI49b~4ROA|||ulol+ufzRHTlT3JOzkhYE.o~5j2XcN4uv[)5W7XYr)!0kIwBdGt%tZA.:pp#Msrsx7fWmB:Rw%qJcV$L,@7L@b^:>oHUd+L]6Sr9AGz4a_CMGwwF#0@_<9CB#&VW/&yQbGqROpm+/r]]qijuI?&l6TT$RJ,_;fkp$1jJ$P9RJ$_.6Ffh@/jYSc8.ys2j(UiGMAiq>d003Q=%dr&mRNHUxyDSD2<dvR~Ri;JnWV)OTxQIDhkMHivGn%Cl:Di|]ZKROG[5;f8ZfIFkGNqqPD@DypO.OW:<Z=@iq9qpe&BBX?ZsFdV&F$MeaW06rrh9js>9$$#UF3#[ioY.i^8/J:s4WeiHr><^B&zxKu+RO8rbxW#baq]WzMzqw|DY.OFRy0Sdi>.3IT?5/GgL3T#D~eYB2GS)pZ![9dk)MDF*U:IkZ9)?+]iuzu6RPUxij3=>m!|Hb;5lJAlH5);4M5:l_XScdw!nDAk;G=@a847,Q)(1djp6OX3xZTd#Sljb&5+.U[!1jv,k>ug%V4X#QWk=V$GiL:NM<AQLg?dhvZu5rD~yR%L]B?eLvFQ5(+Tcl^2u_Z,LLq$A_o^Jd6RLnMV0dRi3&gW_P_eo_zzVEZibTV3ST1f=tV9yfMB0O1w6V2QXi=)~Q/QAw4_mtsc&Y[>R$pg%5lAjDk[[=!vf&MBVfswK/IC.jO3>q7Lpb8S5E<W(b!Y1.490BUPiAJb<d^:*c|!|P$t6tRL9/8o0*c[uy,>ilW8[3M1~w%yR7Bs$^FDhxz)sd+:>=x$~75tu*QEZ$*m)IK7^ZzxGJ~i>J$z>K7^d@zsGx)x[CNLhgQg.9=vD^sV6<[xkitW+=^>,(_=!p_f.UKZ3hz3CN.MPp<Z]1z/$mnN_XWBtnZ:DieZUbohE<r<6K_:sbNvWhX+R!p,.[N@PE5Ju?Mjz(!R|HgN469UHDUw9Wq0YpNVK,i<sAbvJyV;yl)bMlgJz$2cIGO(DE^6I253Zc%8NkRRVd~B8gG8|(Vkt8+~<Gi%>P#uB6SFpCg1@:d#wSrTB#NCd;MhVSOUCdb^4!)<*z_D<9xc4bG*L[gO&QCSGUdSL_s9v^s;a6zW.A/N*uCA1=@,LPCrTn,jJE~&>=Ym@v)hs<Ube|4cdDP1>(4@@%H*/gk]UjWdKvYHBq7bEu*^Vb?M?IQ*CWA1=xi=Sj#O1wzO_>nEb=23PmMoE6asXZ!.Z^_|bEpS4u35mfWG0n5dAu45.vHh1pXW??!l4qh;?Q$%D3aa<!lh#LrLi:XgNL&G%)vRHUUyb9d*7H+[9sQoX&a@42:.PTh=>R^;d7yt6Wr<jA(C|Vep2+<e@xtT+uGPVqgbOavQo>O#:dO#ffP1Y!S3[+jX~qSpJC~YBd95=<cB:_SGXW]$9Q]AUJ;lcY4LKbVwoY[Z|E#!9*MVR.@>u)?_N0yr*/y*&+re+#GWc,mAds=X)<98zn>bPY.49W5_FW|(/D0eL7%!V2gj7r/2e0Taw6pH/lRYnQ&d2A>>q>/#+S%+,2Wq6F@Y~aHOLO[$|hj%lX62tIN(j&$XgXv0@krU#YjRv>CvS~W7#1|s+geQAj|boQy6J=s/daf>EJ(KYru:_.Zt25Cr3bn~pqyW$v8ax,2.ux(yE(V:;]CBpkX/WKd%KQN=v?f(3=z]O|>T4fFis![j~z5RGH+z,.g/6ziU50Fy_Axk|5N8YnJ[|B]>2R4FmwM,|H>A/?,NGv<zYkGbjj_Pm#_:y2GhMx)9lF7$~pSY(c^B8C7F_t3eYn,[]6>UaFOm=]K&/UK(#j~9_Zq2pURm!N[j!)uZ~c:lweuWc07",
  "Hoc|[?4c#Y)QJNSLW/1ckti3iM%e9~c95h$7o,@G]6sRGL8oS@GeB|G1eSj2J=uN,0)_*aak^(yK%WS5yy,72HnQX+R|[rUTVFgvU@*dY~i?QERJjUF)[RR.<cJ4!YQL2ip+Gco:nukE+,%yoWCmXhx0!/(H=Giq7aK8#&8/!=caC39j6!EfzPyO@2b!!syA/bga]AbOlOs]vnC9fQO/j.v;iO/z8ut1>aIedRcVlg(G|Z^<SC$~le>=86EK^MS7|v<MxMj3k[d>97sYU^:[1k4=0/C&u@,V_/l[[+Io)YXiea0U)+L7kVg33;mUVOcjSr+;=sL_*9q&)RJ?^C,7F@kb.RvQTXAG^B5#1|o|yU(Hwg;<^a0pZf;JX.&O<zu33POVINV,+^z24R|6_Jgt4Lv/G3W:Y5O/b|_0c;R;<ALQ[~nxf3Qpf9S@uo=EsBF;ul*kAq[bHl#4PR~*vlxA_)fXR/>G9MbNf&?i//W@Qaa.JNd@ISL)HE[X?iY7S533@ovyy=8kjy%Fa.Vx?vq&LiIgw7P(s[<_#iQWn]Ui#&Y3N|#l()o#Dy7ggl:2DJmH&BUK0h4)sVbR>nCN%s0m%//;MZ:I/3@!N[_C!rv/N;E>WNkq2WVhZVLf28$h^+0FZX^iw.VhaoUF!B.y!H/9X5gR[^>[>GIP@)SCnT,(bP94Xe|=[(@!4^ms1PU:xLrSht]VKN)0a%Sa&Rck[H9u4Zct=#y|NW8EQ5Foi7h/2:wYrSrA+ZH^!VLfrfIs;o[>[HGW[t]IfWIShk3wqj<g*x*A+:!zvRG2^tU~aHr.mH>;q4Ub/xG5/K87$oqwh[8wSi_er4GpF4!ox^naJPVQRDOW>y.><m8s<HmBG5U,ilZ4*DA(%WI>nP6vudRFJgKkI^U]EuJXQ&ygMc$t$)>I[1gX<m9:v]aMdMQfVbK>YB#FEB6Ihi#taf]Wskso)P(E7@wnN@x3V;^mvxy+xYh5Qq;>cp4(&NF,Ba,1s,K_kokXv^+1biy7:,c^sD7M#(o(@Gm6he>%.<Z$$i5@Oho1]e1iy&!2n>v?0]1)UR2w(_5Hia8Cca]sXB;1[wX3w>!tA5J<2JX8H(cEG8y5P66s@kh5:O(!Y@hS%&vy22)p=brjG6t>;|%:MZ>_v>6%wH_]<:fwcH2J5@g&.Pg9;>$luVdO0q*ZH!;mURkWl8hg*er*KbMiHV,w<ykt3>)&8NhbBe=yw+$dZS%7%&FBaGol_bl,:y>mTIh&Py@b0zSkPXv<ez!Ckk#hwweny,x@Y/<quDVk:),q*q!(mf3b>:21OS.H8Uru6RKO*p/#/!OEv1xBbP/]I=V?Ccnr$D9d63#D4ty|u2RpCDdMH!ZaBUC4:q9cuRAXSTF_kQI7Q:hVTc0DH=xPgQN;(ZANY2$01mHL&VW9&.w:HNh~ANA$vi:=60[~Z~psi=RjT;OF82Kee/QT9ZnW5!Xf%HjHvFj@#vB]D_@vkNkiR4V,HGE?Xih2eS>x4SAd.lNO:<(Skbk<=dUOeu[+R7/,QLOZ(2Fqp&j+G+?N=7Ig(C,1$(Qj.:V%%|aYB%V)fWzypt+1za77|^y595(^7BU%~U<ybDGc7Iq15?GXJB%v;5&HL&;K[Kq>>#3?9x,k#7Ta<MPGuW^sCb<!!Qx~ydM_#ytwGA|.enAIViNN~pWH^pC(N3~?!yyVm=V!nP(PiR8ls62o:WNEwaE7j7(4V;f;0dgqR)ar(/eA*LGMq[yJ[ogfd94[2#2l:4KcYa=Q1Kq<i@IkW9).B)vOM[7C3t.$4uld8(1~V,qT$>Kv0*BM!s+!umNDtc%^<FYi+x]yK1?81aqgOR=?Ux$,#Wq3&yRy_^pRB!I~#5BjpzvZH.#YOwZu;M;<8ZjK)tY_H$N[/g565Y?R<pR^DBsPP7M6gf2jXRydAVV=cQ2i.jG+Nz]fk~%(GzF5iP?d)rf[[co=1~a[Y&V:hJGjwfNwoX[coTJF~oMJH^ptFh|N^+8(a@",
  "6AY3$U6Mg#p;W[$2XZ6BWV~)E*jkvD,/r;JjuOL#%5&NKj10M2eInQxP;U)lOQ,Skl>v4w7.an_&vOg$Ara4Wh|X^:2KK0iO5F%N72o=I!(tn*~z%0W9h[$Q_Sz9;lbrOJ(2q+*YeB<Kc|3pKX*;WA>olWu7U/@8h%f)Mh?sI,[M>~FFyc;F/,zAOTn0p,nwTw>FS$zJ|/b1C^w0my*V7.?c/Y2yiZP0s#7+Xki%7%pC@MY4Vyxt0|NJn:X*MO&,s8TL@XCnbGBjBn_JLe|tj:zcaah%B*Gy;0sa=x*6XkWUJ:pjZ@)5D9<Bv,IAOd,uM?+V#Z<v^UW)VhKE9f^2jpxotQ~al!o/<B&]gg~~%@I/cB!t.W!M2qyjReBXtmOYazDicBpCKQz~uZRi;OR#h5Gf.L?gZ%dOvHXgB7KKQI%N!Q4G:bLLP6,CP%?UPMZrgQ%>fq5+A,ME_?qeTG]V=wMi|L&.4QB$AF@T^2D&/ch?Au6[Xm,m?i)?GL9a!)fVXzS9qdrhgO_:~?7@GWB:,FazT_W$NQ^phz+Fh|Y985DQ(@1Ff,=9=7MT0Z2h3@xR|L.,PB;#tw.=t9n3j]rE@7fg[WW:>pKP,:jSssgVlMnrZ90SOQvbnjwop*g@)ung5kAC,XfzRda:p:MuN_Qh,d]=a2YF+*wA6Y|9|X=MYv5gvKx9.WR]fdnd1kj~iN=XTQ|U,wqu=c2p:aB6O^0G.:(w=azh3+nA;]@W#G8M((lf<Swmu3@.[TRgYIK37<7)@&/Zlf%shDl)pwrW&6/zqO;p!reWdPdgD3t6zPqkYgU$lRcsON:#Hi!1mZ|C0;hx!%a=UB:s;ICnsvR5:zu.+4o0Y%d$?MQpPSO(QNU[<~M|C.#fk~rgE52b&ns4KC>Auz=YMc/6$1^.zOs$&DDHT*.AK/IW1&K/2Q/oAxI8NHJ>P[Z7T%1X1>Aqo()k=^+t/~D(_8)WJ*PFP*fz&lZ$T]Nw2+~M~B2;=vh<Icd](rzZl#U_j86)T3:+d|@/i;$jwyI#PSG_cWgj~y@XU9zq*ff7TD^qY0;a*oq2Ny(Ue@0?vxJm>v:>R2LpccPz.?gr&_Z21Bmi+)!,8Sy@MDo@wxQa0&>b$c%>6wi,7ZPZ7C2fhT37uLedjG%F88%8y>N0S%$p.bX|1v^v!1TD/h_Q.I^Lc^TSFa1^DZS*:%F5Xnj)dCd@)7[hy+5g0xh&;P1]Cn#Af#KuJJvfWu^YT8AUfIG_|Z;o8kv^C%MVp0TCFY4B>H1^6*V6X;rkf;J!JOf7HoyyW?B6J/sSu]b8mYD=c9*&!7#pq<N?naoyHVpaNRRj*.UDNlz(~u|/@BCS<*!uTJLeNmfw]!:eijo>9D#ha0+&Z3<MsLhBlJ94~x,[tjiDF(,%,%3aN</H(Y.:*s*!U@1)tECga@wdKE=Tl6XA0<)0,:2:p^a~@!vz<(hviPMB(c_N!BW[P[4&t%^x:)Acn@GUfw+T#g8kL($@C/?%<40yOo<&jy@*k+LI*+/cZ;+.mV31Huc[xr_P<U[_U~:T59DbPm&PYn,t^z744MrsBralFgHd2TUtEKpac$a5d>mCDQCe]dJ4./7N1u|IC|EMD6m~Rq(Z*vSv]5&~q,v@QJIA|4~Z03p/jP[jnORLcV@SBd0:YvV/Qdlg54rNTbWtgJ)MU/;hq6|;ZG]wi%(+W3QM.HO4>kdYaWg42M4B6[XfL1+$VrDy<JJ=#*mnQ[uf*|VuvIS|LK|*n0@<Po2A8C:.F^MkT[>Nq<:^5+7&]8#$kCJ:>N=$l:!9UN?:t6OUTp:CM%9@O0D(Q1?GR@G3A1kGnp7t.I7_K[:wCC$xkbGr!SB1!w8Y)21<7hJfsgmEv:i>o||6=pyV73N_2mIk:vr/2WXF.Y5&QUpf7eKA;SE.R:uW(W6;|v4[PrH.5ES^G>)u8:l_pys?Mc0]Z/NW*nHh3n$GNqK3bJ^Ilxqh?fL1TqinAgzU0)Ni37*2!<nJM?[m*?",
  "hQ3^3$:^#B6JB*Vg#tq3A#G#cA)lS))?sU@g*43yO/P;.7~ztfP_.)(?v;+2_rldpV0T(9x<7XDeTCq5xwkD%W6IbUR,q_I;]+B|CBAMb(hdveKmitxFcWDqe&%kwTB.~Z?qS6*5YPsIMG(aU7?y_bXOvoSJ>~T4v#2<oU$u~5tFR([mh;s~jki>P1UFOzCA8/B,)*Ot#IZ+3x$GOmHc$R2kxJH7sL:%mU(^gL[Z~vk<E_2]t8W?DphZ;uw!82Y#ECHJav:r;y<pN10q+R,4nCcz/<UO$XPKDQ,!c#mMd!0M+5angi=@X1;3<S,:><k%Jdo7snU<G3Ywf04b%;Wnn/abAXSu@wnrhcU:&F:05]zaqrpB~Y<6~gcc4(h==kIxJ%3~~src<Fc[>Z!Hto;P8+b,[bn<j&*9PJU_1%ynmaa:HAekK%iuvORB.rdR88MENmTK)TMmL*:ikVOz3;#WUJa/l.r~KF;d?C3yZKb7]?=GKcey8eBO8>uoa^~+!ac3JEcSSLIRFale>@P^Yth)pvQ%([/HXe$wk?s>U&BoPjQCuG]=:E:aQ%iuUpRIeeo(rLK0MD1d/_aqf.>rnaV6?L,VXgp.hLtq&[C)j1*ND:/RVRfYe|_ltAa1TSMneq^3o&n5[!th~0Z=V1SC:xf4/*zEih>muM3X(qY>F$ZW_pN*LZE4C[4eysm%~u?<N[$!)$NNnoDTF/[ZFL^/;<KgV2<O/oI[rqDoVuxM~wDbqm+Ch|:CD*>,rf,+%K#+o4kg<M;6HppM8DK(.MadZvwpCo;)D.(N;=0i1pLx~Ou~xz;:&e(2~7O/6Gvd&cfa+k|<EB565#ZJVU9^qB?8m6Q%cR1~Mw)h@7()Jn!dze?[|yY0|cWTuSd@3p$KL5WiT#*l%%DQRG;bV#:Gcc(=VHp#|]/O@D4Bb#:i8=IfNt;9r1dD8DtytRKg*?Zd02XhooGJeZGGWDqeYi2gf,ITtS9p+8CT#Qb/82bX?ys8l[CCk!ayZ:jp2J^,otvQ?DhGlYieiZt%xRmAVW+=_9&bt/Psti1_AobwMQ,Tgay=yv^4l,*$@IP/aOMeX@mEI_FWT|1TdB].~L9z.e<@ppdp$GzVdxy4bhBi*@~y/>J!<&Sc!,m)LI?h)ZOg+Y<:5dX;Es@#K>2<$~Vqa7rZ4Ox%9:vR(cP_]Z?H6Hvs.vHB6wJp]n^JLqs2I2~#Ie8Y)b0JQifBm_8%MaQ]XuL:;V08g3fiEsGL1$RA?Pa*_zE:U3W~P&$7B,&,b6Ue/xu?PwHH6a,JTgtl?:Q#L+v#BPX,[aL4rIF|!9p>WDMvV2$g%YAf^&:!U,RJV+V!U<xuB,uPlff)F/Z2)fC4!>hKq4qXc;C;y)>A%3Jf$qdJ(!?C0Az!a5cfMO,v3i0kjm/el?Y?6tavR)r&uGXFD5df)@GjObW@_GdJBzTVklW3xy=jU:110LnnnG4Z@e[|WkcT#^7]87Lv,Rv96P#%E?.@~:OJ#>Du^bPZN$K_D[lr7KvF8$h.9YpCd(q+m8pAkkxlxidzsOYwYz~#.%WlW~cK%PcSaVXW+kaVzJz%|FbCut2HH_FvS0?hsJ.8i?PL;|&/3Cioh)od.^ll=/<H7G>)IdRP+ccoquGrJdas~5.eFi1_TKU%zllomxJ*V!MSv8Hda$Mn6B2sPq/wsakKeGUX8p_9z;CXI$6,.R$Xh]/#Ww,8RIJ/yS9cN+Y&(@%1fqTVd!V?wS!muur<BU!VoVY)5n.);wFJ))sOL?cO7^TE?WY)4W5.,==DOawWe!7li%#r8oTJOC51X5RDN?J!U8<:/ChY*~.(otDzmEo3%DY_e$Ty!*EO9E^FN8n]XHc|iKIjP,FC&g?_;akL(4^r!XnrkizS!d[2(7N75c?.Go0,r?zr06qUYZDL6DOeC?A%ZcWi/y!Z96JyKuY)sp8#Ur1HgZ5?j,pA7Ml2+(bh8^@=]KcOfn=YJzLj!dDa.0u&l=g_10rqfRW$Q14u9V",
  "ikQQ.Q9?P_d3)YLx+<8l&I_t/PWMh8DWXh%R.DxlPmDqm2eYh<9MwS^2wx*iy$6&ajSYYmi!X/x:VGRR__v[oL^OB%rW/].,FK^iz%%|axb2fO#Z[hFpjE(Lqtu*9udM/k>5H[TvlO(TM9$z[>$r.ovB8(kMgx9|Bns*k9$d*5u|)|1]f5v0N,kJYGTO_u|GfBOB)wzG/5zg*C=FE4T@WR3wQS0>usSCIZe<Gi2^pCZT>siX)Vv(d8x?d%4owg^T,#y9H/A^I8BMe!.*k@D(3T>IP[>65bHNOyCFV!X[90j_rgZ(DSFa*8LwhM,SsS+?N2w~Ri7%xFdfhpKj/J[LOGAryrl1h&pJ+ybpT!,?GPVYyNKuna%|ttYF9=Lo^<rk1%ZWt#I@EA.|%Ffk7CehuV[p@$Eh;8GHT^Y;Pdv6xl8$mb:dy@C;R~Rl@F33<&$I@SK=KT2a0t:$7;,,w$$ojhDy/H?i$lGQ2Ew8Bv:vE~5?sVy&]IAC&Zw(^CWse$nPU!9!y1dd0A)UR0AB87+r<gf%=u#|aAQ*SqA1|2Rp_$6Zj/=^TZRB;$mkSX<XNfHlG$p?o:i1Y6E>GJgV*&A)$BDc?U<_DUb@$y_V|2p!8CfzuTG;G.=fDE8fr%[Hw:!qSyI$k&cqkR:i]L1~_%aC#!~r$>8O$1]f^Y^l9=*wgg|wje[dnzml6WVI)TspphG4:Q0I<F]7q,R]:J*T_NBO6+VwLN3=IyZ|:[vlg;xscyay.VL$bBPft^kXxP[KqNQVO_LE.tTb)Mf8Ls3N*WWeyyFq,9xe~is2dc[h7y85|5VxYK8JU($11RKL_wViye<WNx,|1/2t64$ss^&arq;v<>t57xf7VRfc!<<A$^|jo_,_Mpg0~[G_ddsyYZy5Bd@|Fbwb#0S/_=&Iko~Ms8SE#DZ;j,oaw/D*Qfp9DtRkHy1vWw]lZY9B[ZLP]b$C0pLZ]%582F.fW;p=*Hw10^IW^%xw_>$M&TeOR~AA*hN;;:zy&HXQzvY*$|Y.!:#cQ<SHWAlbRl=q[y8^lld_8:N?I_;&~f$<uC].&[4fEii_SPD6~C;>22XWTWjs!1nj#[xsP~X55:i.4s?res@7hP&V2Jc^MK)W6<kMs[ZWEeIOD:Ps,Px!8oy!ZoE]1&OOPF!5d9nHoI0?h2qwn&tK4x$X75PCVO*Wfnasr;Px?8SMs=_b3Jcuux7T1o[c*+wALpD]JruMm:Y/[E4/DV/[xocml_,Xq0qyV%^)/BQziJ5.m2Cdt>8KZ?76RG[@KLd%wi5no|urq0[OOk5XytON|!+UD?3^h.%=d^t2a2>RV<4VU6Y3_%7kC*!PbO]o_y[0b$&)sJ:9q:ze?fCRw>i5T8Y+CMsMFz(b:Nu#Vw:rJMB/lLo*1<aXwp+Rv!G.:ffBSJCEV:K%*,$S(VH8QBNU/]F4jJtVf?b[k2K_7/Pz|l(e6va?tVcn+bj6G!~uGArA[NKRZG,V=u=oPnAwj<YZn_DU7c?2EXo@c#bY.[lGMtF?c1xG,4&Id2gkQ5n_!oiFpz%%Ze4~scy4oxe4C:>LAZaOZUyu$UI7XY0pyoi/,.7=8+Zko+nrTG2s83k~~Of.m$,FkBNd%A#Ghj|(_H6m_9zYXT;%5y%01|.tH:B.%Fy_[YDHribbtR($YkxoKbwnNtuBjzpFZj0f~1Or,t2<i92Oh)0*L]/TTvTVOGf)[^^b]Ulb*_d*V;ndoXsv:@,Wid?rUv<8e%XH4(1c_XC7sP.r]:e7%A*MYGK78K?6RY1q|Q6wBcJ0O|TkV.U/<vDipk3=!j8v1rnmY2Yj!d!M%BU(91=[Z9mF/jm%EJPYZ:j!Iw0T8N)qxE&Q1|R~&(?2HAv~9NzW0da48F7@,k9I7grfq=t#gE_zQL(E9%UXpd<0q=;/a;WC79KzHiG6ADAFnn)L$DyCa!gSy3^xpNuf||@g@po~%g2DaSNE~M#G)Wo6UyV~EU6xdDJrAXQf(NO4)_[Cx0o$CF",
  "k[0W)5N8ARnce!$jB7Y@2q<i]=sEr,)Uut/r([Y/f/b:k^3@w>c|b[o_a~M>@UDQF4YDD:_rg%0=i9fZ%G%,s_*R0+,zO%nnP#wEVBLcg~o2>:&k8Cgy6?Ssc)h:nlQGy08j*E;)8,i.e1])n,+_O=99zyz*KwoI1LVKi3.TXSZ9Q/4Y)@5m/)8[8M$d$mGt::1>:.7,V]@*lBoZlN9buAO=_U6El7,J_,.ck.H2V8glB:K$8:YIATjF./rJ.yZRkS(@mui|Q&;a(T6<JpxN>H)Cc6A!;8,osG~0@^!c+7^/U]mW6UjJ*WA/TuP^sbc!&tYwoyTPQ|$!@8[bUeP>$Nx$ecK8&0lWW6_:)E&c&e8%@,cNb:Kx]a?813jH2mLgml^#*Xozs0Xtfr|A$Y/9uu:S[StpK~Gr8CTjvXhI;UT.9<N#?3Qo2(E_B+7Ivk6mMPM%u:r_/?$K/^3QepgHzMBKzE4;IL;9isuX|h>(^redgkw&(=:4*3t2GrJd|)qYYX7w=9kwszw2$%bzrmb3!$I#LB9w[pi48xps7+F<+m?h4a>NqXr7o=n!]rD+0to1e82SNyRbTyCk4tg1QP%RMzBV0|1qxLgtj=Y!~C|?iMvcF#D%p0/aMC>hb9h[f>38#2w3)?V~B!0*=Je4?uV@Ug9ghZ[>35WI:%MN^/o0T7PX2.i|c*b|X%aAs_;^C~#4zy87$4^cj^wfmB|MVeua*n%TmxJ(oIgw6gzzb]5rF2*rW)<DY*x)y5l_?a;>[0qHm#%4a&X/VcJ@$nX$jk%m!J5cr@tw/bE*vlZMYMfN_v9$B)rbF_FDL:Zv%Yrzx*@rdq:_=P|DaIP!t2a<d>O|]gV#y#S#AOUrr5T:U4xs^N@s[RdhNyE?C1.4&4^g&YnRiRtmyfhL&V;i9<BY+3.JTd]C5MV&&U/:Od8n(vB6Fy9[q6P>Y9dx9H1g]h3LN$F_)fBvF/waS)3?jXbgxXr|%rx0Bo]rzAM&p+XMo(luB?=Yp)Y~JoSh!c9LRG5RCSmRxwK20%u<%H/N$cD659FbV0]sCd2mrQBET6~Ns8_oG;t@Ee9&$LGj+Zu&e3aO%sPgOw?t>p#6VeH~Q^bXd$~=L$20e.M|>6[MbaPIMCAlc5FpIYsdxTgc6=7v4v3WV[d|QrX%U+^8:.P||BA934RUK9bWzxVKcWN@ev9?A9hVw)ftNN_#80I<o@|RYnQ>*H[ps$k|x~s92+I127ysGENwXNSR%V%p@as5]t]VCX&#w/nm282sHA<A[==7|0u?S?r~$Q6k:R71a[)gv0SjREnsSA^ae<fs|]S(%(FUW+#WRL2;4]0dauI^ckbyF&jTl[b<iBk/Ek3sf51*_PVIa9j+I1^RyF)h:lPAldg3eX6M+XH2BYe_O]OJ~:[6JA5bb2^+=o5>=F;Pt:v^FwmcTL[mB5B1,1Fh)NY*@#ra3%c<21LEPkjl#5CrVK]s#Mfz8nP#|PLVQi4.1H6OL5[~)*Gd_U:6Pyo]*:t]Mn!$.bb3)PEYR!%aKT+xPIm(ZCo]X?(2_^2:*;9w9WGj#AdHZr8tUe=L;>J!ns)&14eK;ej%)4<#3ofmT,etng@lpiX)),2H2uQf^QH3~3,LRGBZkae@INJAP@xMWB/t8W4F1k_~d[pDVT6x=!RO?msKb>G8|0F94UA)&@Hn[)0f>]4KVd4O=]Sl7vR=H!1YuzPBOq&.HiGKPmJP+VVqP1ezzD+8&N8jMWZ<+P)U=9b;Wp.EOas196Yte0GU*&FBuCX]/K*fmLh.+(|hEacjF*B:YG(Bl5W~uYv>6!pbCKsuf%p9~G]fh>4%kzejlf!YCgIy?*I&_>)RVQ7VB:3Q/$KWB7X0=tPRVu=]/Ayq?sl2BNoy.7iQ=G3b47x|jUO8>P09dNDpG9^<~95<UZSZ@#@Ht0Hk1=K|mWQmWZ+rrkrtZm;5~xm,B(zz:7XFqlrs$kAKxrVSwU&=!Zw;T9:dvdWdNmM[b]&OVP]*Qr",
  "_wS,Z,M5c8LdK4g4,JHlfx%FnD.R+SFw)eMjDBq|k^rksMj(9&WC,sd1:9f=i<,0=ll.<*$z;5lk|oIXAOn9fdnM:L&CW(+#G^o_3T<W1+m6YV/li.UY5TccatumBGXn^H8M<|2r$x8a##7OI#Rx@JE*TkmG9tdIeE1>nUnc_XvF21.^ibXHTr;+X%=O<8.V=;K.lthgh(=>zG=i!lA%YM2H)x$e4AX.m(aW2<kJ^dmU@Q@C/[:oJOo7B$;aVP%|<M_w%<:/2>]^HrX$E2i,ji_[Zb6L9agV/_pv[H+&1%aK=nn*u>_CN:uPu(sGv+$A>0,s@M&+cVr7z<T?fUJq.@%]y%vD,UMu$T<V7lJYPLB]d*QI#l!,Vu7j7bwAGo/eOV3!;u0|fgl0]2J(5TzQBV]YXt0AQf2(A].wf.8KJ?)xX:EsOu.P4Vo5Uh0s2v7&HyplEOMi|ubWUT)H(P9Z8X.koro?A7maXcO]CFqR;#XMbt|Qkf$orcdu)+*2|H>hh|ry>!jWg75Je8WnIn6h[wLzN1yJmcX_Hce$D<bH3Hw,eEIkbKG;EReyE4QD]Z#Cp_eLMIHKR;_c7oMo$HtDuq>r!^8/sv6hG)PO8iAS*.jWv.*aS.S~+7FJcWsdNz&58x;:Ha7=)v/;YeHr*dNRE]g7&3>/c&nw0|dw)K~nOdT@ff)$:@n9j|Flta>.TmV;ZhD)iPw/84@aa$c>t>DLu]81I5_cT!xHB>?R?:FZczXZxIyO$^KW:)d#kCjZP$NZs|/7>tK9?J>[nOwTkZcUaWcio8CjF[&UN:^o%>9za<wzuWD+|Zhy59Oi[EVo)tLCPR*J,OXX_L*8^OxB.+s,<kh2ms?u$9PH#j[U;>%LUMrSlI):GLaDX6V^[EsEK$R]_&y,.aTx[Lf2~]~.)X5<OTXZ;znK15:XaXdv4DAAV<h[pvR*:cqEMkLHLq9/dTX637AE1JrW<M%X)UJO_w?(TnwB;ABaK=td@RVS)tm#<#O9.|yzrc.|$2cuP8B]#yQmNbzp:OeCsr+KC+8j[|)%*)Dl2j.*odUZfJn1EcmQ=kl?M$ssGVB2?Gi&ihnz(ueEui=KSa,_</M_TQ4oFhC1rHy^EXYocOQS@yG[A%,p#?kaDQFxP;ky&MF$u?kcuAbc#q#+@thTP^G_xRodw7Fa>B*zOKB4V(GmnXV<pkx9[gY!zko31Z.k^jEHflv6ww+v4Zw/E!y?^1XC%~Ju9RWnhxJH<DS7we7Y7vb_22ZDU6bO(9&rq:3%+fot1dcB5rlK)y&a@NAFFD0bDDW,cw%D4oyCCZO!AL/1320lGAu**%ekf@4?!<!ouzf>Q;~/(rMK4[X*:;HKNG7l6t64tpb6O&c;$L$QnaVZj(hB(;4UpPN)&j@EcT+Zkm022$lW_J)ajL(]J.?;2,hDsm|hCp:M)8Q3=WQ/)AOWy5tg.Ki(Xp>F78d]BsuI74FyZZE2d)/<e!)=~M$],bDLW6iHXjS>mEJF2)SRTHx!CH6z7&^dsWNjsgcT]M|O[2a4P&b5o$2GlL;y[w(|*(vDlO.ia,BZ7P1vyn~e|=kF|AQ(J:LQGyG(%lEg@|adW/r>;RinQl6ABz4T=,3l=e$GP@%!>+?#wmz&ZFmrTz/B<!6!kUQS@V/hyC<I%in=V&TU[Yvm/z8#Jbd@qQms%s_1csjy/s7%S<Cw7uIRR0!(/(Gd;8Ug$(HU|j:2cn]F/unp1.1T6@WcD]b_M:a>A**qh1&DRs$Zfn4mn0[2Hb.IBbJOh!rn=U:w7L=.M,xeGRUYwo(d)i*MB:SZv~^+2Cg6W!IM!4)p%g.@yw6VWHm8|4JKr)4ut#g^Z%G&WpJl1lgX+0^RI66:(:1P2a7QLTrNZj6VaUjE:Cf3qcN;^Hi#vU3C^+Ly$Fr3GB4x^u|6q0O4(t77;kJO?WL@J%.oS!+Y7nvj=~cpl.>3pjl6_cHR(~CKJ1n%mR!AII$=n77Bk44?ORqu1eD8UHF^!a",
  "dc3U+$7XUKtZhaAvpkEXX!,@<,C*ALhv|5#oI9,S]ZQI?E7Ih|#^8O$=S*YNFVwj.wKchJ&]BGQ=09Y%+Bd0YH@jF@ncJ=hgP<;T8s^Oo47:.Wy6_tfS1y_*.yabE<XLKujhd77<%EZeOSRir:qI[;Bi!L%*DC!;!Na:DK0dBV6)c3:Z%!s(H/32ex:b%]Sf>nwLC~A_3Y[X:<MH#v@8x71fOE~c>;GOR%yz2x4<$DO[Ol_0uLtnNVa+JB&&0p9pK2@Co+o=EEeKi1|PA~5x/?hs&c)^N2$_z|FgE)rMMcBm7Duu7L1_A&f/_&nIdRD)eab!axUA>9&qxL+Qat4qZHxblV8Dpdcg_K1hz:#qya&<,jwl?^^JI*lA[a,o*0fqF,|ZRQc]|4Sfhs^QV6[k:h|+t$KDzqjB$!Fr09R_Z.fX]383p;OYP:2RvFh4^l.m5]<7CP8&oJrSpeN4luy!GEAD>4M8&w~LixR$w#OjH;Ig7?)~*$dw0<)~;LV!!_je0Ga4p_~gISfVwBeZBVcB@UeQi1;6f;QkeF3^PXsZjjM$c)zTGoJjsXCVWib>7/$Gh6~f72oDcuX!v3>RESb:VXChRem(@_KH1?*pQ~i4PN?F*%Dzq%q3TTCG%cVWnQyG5dFSYGHBCy;JwJ+y#;@~m*eWmconQUReG!:P%Y]g_Vd1iLGq8N#YkNfaz2EuqHwC]l!W+o1|Y1%1evJuew)*T/;Nrws+&Fnrh];NZNV=ZC7sM#A_=H=).+a=ox@4Ly@rlLJ)%5a?1SQ_HM/02USoI68[kz@0314;V[nkp:6!,^vRP3eYXc;7K2~AsJ]RfZXD+pC7c[a~oU)+jQjlxG;p|@WVN;z^)VO.N$4g/K>0SjXr7I0G$LGwuu[A|5(#P1=ZKB]v6cD_]gSb+u4s/V/6mr~g/,>(>k9//+hdp5kFo;OmDzw%sf0%Z4JO_%mwxDP#rUxrJ6%?YSED5Yeuls#?0wN]P1_?5b9HfSyE92B~*EKQ9dwH)s84~x]rvalHP,G/16begh^n/S;3&&2Ku698BpyDCC/gZ&/^b()/F5C!tGvsOn4C<r(*k.G~ZGNPE7o@0Du3=%cXiZWe>9R1w0[R8J/:zcB8x|~zA*CAO*]djhuO;!:<epPTkXMA;RMR*XEafK/oSuKj%|cFAu$Aq#!9E2y<tQKLcl]Kp@hS7<cA@.86WTA.ednv:oT=;C7YfYm?F@jBFscX?D&P3jRS$eWD64RM#T6C0Z4FiVnv#<N%RMZ&B&MVSBFAM6GaUVzT&Rj)7N.E)]rdlO#UXm19PJsIph<baGapH#LM.dl&PkQ/0jFD9fzr/Ig[#i9@O@&kK)0iZf=Wnl<>hd|Hp7&Fa5f;rve/]qo8uDqcW$<TAHaA>B_8?9D%J/KLMuC6U3:=Sf*T5u_kGm<$gyH5^<W5Z?K~Eo4:&]dn,S1j^Mhiek,e>i%LGSHLyF,>g]v%^]nTG&:P0M&RJseDkA|MyzSg1*x;1K$LWgC@w@JRo6>hTH0rHdWv[vpQb|T(5(5Y~0#Cy4)vctzcBi,#t;4fx:4eLysLvR?qJA:$!%iH.etk$p5.zxzA::=Y:|wR[i2@UI0H+G5!f.^8*(J&:k+:)t<S>k5!.!x[9pZ/r;]mE:DF[6]Vl/sHZSGFB+Pt8ElhaWNbKBmKC1Nn7HLm44js8dxjt~5jy:?gq.^dodQB;HZ;/&tW0u1AI<rWR;Wz)(1J~,zh7&$m>Np[G,EdQ%%h?J7Oo69hYWDpCm%v7OmAi=0%9&YzkGuSxmB*E>8PI!i7#FB92FtTrDjH=FE%0F[lXQ,ME/GVU?cc2t;EH*JLo@A_/z#5+a5klsg^Kl=%xspNlC9CJiFrBkrl8YGH#$$ECe>|;Ajx<An(.U?4i.#?fH5vr0VSsV(>((*?#X>8!pvMO$GXmCkg+L34w:)F;Fh+sI(J0/Jl:)!,S743zBHC(EW]1p8^ceNG:o6dpPw@Dz9piZ2Z1iA))vUs98",
  "][<q<%_McP]IqLg>4<Ok+9mPavqnm3yfr&AfNmoD8er&8M6/~h)ESjW;T)OLEt&..y,QCDrVTHFd*KXUPMR*B.0_BgHC~Bw|y;;#q;6nC@[E#T$~wa5qXr1mH|PUQ<@6>reZ$tI&jNtBGy0%c%^9Mgorce)ovDBBAcf.4yg8iifGHT&Y+)[f0nAc^yw)l/if+toGcLd)v],l[a1p^[kgh:eVtgf7gDQNi^jQU3.QPu@9)qo$DOzF(3&|+!;P)lcRQ<FN%loZa&AcO,FS(:XEZdAyD9krs.,aU>eINW2mUfxQn1=X,BL7WK&*:Zk|7Ey?32+%H@g~2u,=Bw!>*z@Nri,OI9qp]I!T@rGLRYwEwk@sp?kI>:vzX9u@_.lbZ#Dz9Px_|ViX(xn<Ej[(U%RKFB[Db12XNiD(bru?N>o%ublW3b_Hl+;/=puA%yZi^m]<m00Q/X1qJB6;[>p1SWF)@u^ju$pI.3T].or2]OmdhrPTDx8y0Ye9zV*:mM&Y[<cv&wy,caz+F<W*z]k%?(TO0r:N&T%703_/+>BZ>%@rWnTFLo?md@G[,PdF]%7X0g;:VMhM(Ue(?+2Kn#ep$WwoWa,cd]F~FZfP|V?Q_0GUZ52Ssm]2_OH|^aC=cq=mx>;JcJ8J>Ml~(<05z5Kf.g/8~(YgYBfHU9kBoo<tzv?Q]m=Yp7:uLMb8aLv>qXyxgU2hZuS5et/nZBWKN]j?ftkA<NVY5a@F6v%uE@z@W$y.0#/U+NcD7pFw_o*b&s(sxZ|k5ZlO)6w08.J[ccOTFy/sx#&UW&a2.~i[Z#z7]77:XG6II@oPj:d+1C%+Rd;c3<Bh|I5hVKYC?@e4NZ+LF*kM$5@EvnjemJ49A$NA/5at4sF64*sxh0%[3z3bct@2C>A<:0#@.(J~^Q6I$#EHXA7UH!!Q8^XJFD;ObCOFA?6m4JyL]VVI6uVce%jr^sD$BW0vTwCb4o1eEZYpfm(G2s*,#5pALo,V3%Z3[&&y*Heo::aUrcv3Q59g^3Su1]EIi#x%OBX30!|Yow;*KYA%;y(R#7Sbe^d0S%s|Or,/9TxW_7[wOMweqm0.Nm~qDsRHQMg6~(Qq($y8X4f/9aVH&?4RCi_zB4jfel@9TVxC)!BUw$5sVowNvx~p218$EF5iBfV/=K0b|EkhXV$hcH@Z25es+g[n|jL64B+VR,9G.dcm7Q[cr|W=f=v[DoaA+~Xpa:WJQ$G*7:Nvnl_ybNxX[R6Fz0;p6LJrjLm:FwyeGAPWXXd8d6)>!St);H?)OPs5*XoSqNiW!>0oRjbwbtjpaaPvSPp$bkLs$FVf5HQoJGY8ykk?]JbL/xc%!gImZs^gr*0Lexs)PWyY+>C,@I[Gzk[_]AvwS_K9Qv+$>3l[.:@cp2awY:LdYfffLAq]s*ixxz2?;r5ZD*?2#jJUUf489(^T??r]<vi4YVbK,;pi_.@nc+=4=VsZ!uvC$ScPv&f~ZRt*l76bZXeI93Quk4BO(3&yHzJ6%l8Zr?WoXuQfQ(0r6xp1F0^(iaZ0w7Z_9.4]IGC^4G(+X^hx=wZ3duu%,9+ifz6OZc=VGaz,SH9Me.Oarn5hn/N>V7um]?K4)b.UjS3l)T1Mi@|6ghYYB3yaoyZjHmaoPB]7$CiSJsU<!!Rn3>jCqL/gofUTW3__fwQD%Xnf@m+j,84NeAuDP]~$o%<IvRNVpsMLD6rNmyy[~#Lv&m+KU[Cm]*aa$LYdR|0HyTo3<VN!mXWEB1%._FqKWX1E!<|)<pymgJ5$5hU3je8]ol_*z86j66C[S[VKBc/x21t@JH57s3!T/0uWKe5($_n[0sb4G|z|!$;<E/4E#DR?XXD+OG!V]HIT_>7^>FOHpZt/UXY;NLn+]m^CVbL%OIHo:d4DSDlG_PuhR|PT.1=_#7yd2T8t!JVfc8/!X*wqEuC*%F~D@5l,)39DhPHl;MsmM[2h/@CeRU<:id:z*cqP+@_>xcD+8Bgx:G+MMfHC;+0kgD,IXs",
  "[U62=.|I[++c(6|Ws5em9~jwRh7q5n+#2t2i%cm0tkXFk1,l_&=i@)q(I%^Q@X*JBoo@UHStL35?9%|7D=n/x=mXtJ/aWCJ=JPr]VRoU~duJ4|]AfTo$~AQTPeFbWYUDBY*fAQ)a#WR+^Tt3bV*OO000_&>kqj;1C[T?DkB<Hls%g?5W%%lOIzo&*uGC,!@#~6&O|8Z+K(sdr8P&)^71(>or?ZW1X6tCU8L^|JU3Cm8Q<@&R(C4lo1;YNU#xi;Djypqcu,)B).8h82kuz&E=l:yg8diLPiaLyzNUOFl8lPCWTmd2Y]uSLjTDXA&LmWc<fynsr3O[)Kk^_cCagn?sv<2nl9XuoVtyl]Xjjv~(Qr1M6F>Zwr;6^i1dSd[eX~wMg]CqoS;GJhx?O|qWFz3j8~Dmh4F;_agf|(#~y,FMaYa|~fS9v:PZ+^.,9ebS9CR8iR4Q4eDGsc.)]I)mI,|NKvXd~W+4EZ^./cL++c]KmI!oMF0rzewOq,Z5cw%>G@ad6lrM.#vB8F[6oJ?&0Nor2Z@2._StpL2S3w9Mz*RTPhF?m_uNAwgaC3i./<QMz(+Da[mH601GTo6[u1%;F7s;u,2&!u~)5v>z,6#Gatj;x%B764Sm2IFm,EQHzfCBQ)yOI*fc>jOOM4ZSTgWD]@oPGdg[Yok27<tkJ*Dlx%3K(D|&+q.anLFl+~v%a>ew%06P&(e%@g|?tF.#,Eh[!+Y3((&l]m.(&%ziHFsH:c*^*C64LGKWmi4VlUbgG#HI~Y2@o^&S[L.kd[Nj)>TMO,o8t&R$Me|#B~%nKu4_ZaT@#T&MuQt/YS04=;_k(jSJx[IiA|HKI83fG0k40WU,KMgypl(A<bnw/HB%L26f|j%J=Qb#Tt!r;d_]=T:zjR)#oY~r.8eR></4[c;pxgj|ID.=.]P/*Wt2T?C$ip=k#hWTd!>w)2IgX,J;gS8tRATnP4>?|SxCU[f$dS*)e#[!oi;<O?DbG@/)!X69k<_2@=.9*!G9vEy;kUz6HuRECLzY<T2$68ma52CwRY@(|P7|C8@+o<q~+9m!p9ojKQd&H(cd.mJrD~J.&>!3DwT<5D>OEC0m)_WAA$Gft?d?^vT6u+8u(Mdt.;tl@)ET(5@q=&iuVLDZ%9d0pAMn4P)2@~u;]_x%u7LIxjhtD%.BP#|lbbXeQgQMc*ww]4Z(n?#/;ucOZ*d,T6+!9/Kpj13mtr#*FtL%^2o%wMNl;K3QfnL_5[Ul]lRM*UN<~^EIal^0,NH#ZV$q1#~Y(I)uE>?i4M@qYUR7WAhAH7&>&u4.:i8yu[*Y37^fXe@sHM|lu@1?2aPaD4H2:LJj:HS:+nZ.P+9v>#;9Eo8W?(jiQK#lz$YJDUCNx;S2g/j@YwjUKPe<@K&T|FF&&Y3S]B=t|Fye+Ad2QqvoH:Q)w=+r~oB9SM0&lpws&fTHZs6pXKP$|lLv.UFS2JhzLjmX=|2mks|PF3q&=^GSX)$Ux+NGL16;IMU*TLSOjkp<PVE9uz()XKA7;TK|v&r/?TvzCCbPMiJ3c]jQSZ1BdO7XDew4UzD^40oFXW260B2RQn@s=eC=+)&,D)>95xS4bDH<5uHr4ix~/Mr[s1YuVL^azkTNEW9f$EE%Z4^iEOsTJ!*O+X8~/Dt_?)(Yi4oQt5?8Vy23T(~ziP#8=U2C$6vmUoK,*A&=iSJ8hAyLY#@:Mq07E14,S%F)58$rSnG6$(?Dn$um#cqE,vNcN9^~4UdB^d1z<]E+d%PA8J14EE+0^Ei<e0T&TX1JiS.:rz<AN4Zrcq48Jg1]Rd<Wx=,g%ADin5W.rVar~xSbp!P><ag]fN!FolPSaPd_G]rRsFhxypgoafp+g>@yC;f96E$am6HdybLGslg>^^d,YE3I;o$=!ZV=vlSCZG+5)v,O85yAp!$&Mzk=L:nEADGEU&eUo|=5TM3:86cN,gnfdGWqdO:)<aWQVojXkyCYig[.p)Dfukh(L;C07SaW,du0I#wB8WEXcx",
  "_g[T;$$(d#wa3Yc]iIs:B54&TD,nsC@vtHlECTBT6G.AAVM;<8Nr^]WqOwu2bPj$3kGNLub_bN&!EFJr0#_GVe3@JD8Y)B=6c~h,!I;+;^c?MQ<VTw&9l3pFJi(*7>3f<q#6]MCa|g>ZhCvn!Qmd!_z&)m!le3[P1d;TFX7w#C9)q8I|vZ<ELL(]JBeSGx$Feze,@b)>xqd:^FupNh&OTK?0hhK1tyAS5e+<G7FYrDPPj1Jx?v2.ZhP[?v+v>8oLkp~ZAX^ovG?ooYENH$czWcHV?llF/kr[$WuYAym=]VbEm#.gcIn9sb#47lhHo:,,W9ePV>=f;Uw%^SdJn8pF:w9r%YyLotX1iGdqAw|_yC~s=on3?AA5H7U,ShC]z]:.[JztE)Q]&<siz%B,^p+vZEUD<q(kEHgUzA<AfMZyW)OIER=DLW<21eYXK7kkQ[1H9FhPy#<P_4cvBjL4,#RyF!K,QJVJ0~~4B$I?ZmrCT%UHfXAc@DdI4RG)zkoQda&O%tz=v@Zy3W5;:Zp&$@EFMZjqKY|#(z4u|e)s^qV$z(dp47YE&cum_%*l#HE,|VuO&URJke9h.sUuxK6mXO]tKm7(tDwzW13t(>@xT/J1&]jELcOz|i]O=.dTTn:B)UDMq8Si_@RaAN;mT?G6I,DK$5#+RV|<!?*y!0EBi2>W^FA/;A5<.9!y[3GpoVbj99**q>Lo0.Fs@PaBo%P_;^?Qh!Gyb)GM6:]b(*4W1X8PDvLya[L6s6tt1RP.3E~$9[_|Cis!hIfZ<FFknn9dQf(k]LfUPh8!kO1KJuCT2i@:SAgLo!0i@gt(|;?jSBAy0$DhNIeB>w5.nlL_)G)j|/q>9IPAlti%I^ioU)6k>%O$MHtt;^+RC%3V+n@[C(d*|e,pxktc1$KIPq&!|rFGL%l2!w(L@?Po[.Kc7rf^NO!4FGVZQ2;Z,aW(~3Yn.=Rh_2%hJ6aZF6w6RgF**oJZxJe&sb^>=z(hjb:nO<=5ffMbGLuPi*a45V2[5LGf]f>^&v@CY$^3@zuZA$vi@gq!7XtpsW6Qu&fzBd;nK>Xu?=3?rCl)yO(/8C~;R(JgQlHH]Va0>Ph+I>[^]w!:Wg49;kdXf?ZtlkxAMO+Q*<jR/u@2wTPi)2)kWd=pLq)1=@H]LVb)ZCw^X+aIhv0E*fVkWD/L%4P=w*hmr%oQvfJFTGMuxq:TtURUH~<PiHEI(aqu6AU7oe[._8kYGAKu;4TuoM;/6r0Pz2(3^zGTXy>p*Sz|R71>A[V;~f!o)_9xvMt4)M_AmOR6^p~_ss?q(D%x_>l:;r_!kN*A5Lf&2A_A1Q:GA0kS|]ol)8UKcHOO<M?>Oj(V/%/CvO;XQI/<aB~y@3JCw,ZRv]u3D;.ocun=17|FZOAxb.<+fphC1=eke8?UgN+C:Vc.7>V[UteLrMXY4NM>WNZO(;UB:5@ibzOLx&=+#Q@KCDI?b$wA:1unWir;v<q@FJXKT/:gz/EJ<vL@RH3z2)uNV_nKvaV0xfi4z^?zv|F!H4!h)S^OTWKb3G#$d)@I~G!.<#(=6m,o26~J1xWi3(mSHZX|/64eF^NBU0NUTMKQe/(zV#VNVNV3$SP$@,ax?1|;_es>j7BEe9ohh]~U^kyg@$wXY5pFy2bp2|K:EJ#kzme+_%Y|e]3,B*.zmXp<^M*F?5VQ&#3j[,z5&@Uh81U=%[q)<=2<_y|+?0^+)(.QeK?Fm&h^umnd%sXjBo,3Yn/h)Z(B&usu<]._W2(;0zPR#+:aya[VSH8vp$=0jW8r@lQ@_e4+kGi$/qb;DC[/&+h/ss0F=pM8GJRs%ns$0u**EJT,eA7mL9bKMS>u_i#G24T6D)q^FRn5kr)XDdIpqrk^a*86Agj(a$k?:krtAjE*lOwUT~H[~uz;dZxnjRxHP<IuA/B0h%3Wx?9>|OZp+l<23KW0yaG=~.m_!m$OKoBNkpY:N&QE=5^p^VDoY*^O+xNs4jLxQHt.+S_!IZK.ySvqqQ",
  "3u(.>qX@2S!LwF75F#8xH@qBpvl9SAPfd*3k_64&Xbz2x*@<s)(SvF(U_W|:Y=HwC_!#oIk]f<PBvt+ilKZwwcdOzthLrLy0Mse4w%ya?|*yQx_l8/v_Ez|$VtpC0PUaikn|xf/gS:HLsp>V_v7.<Ny91w%X7H)e)#b_oB4r0#fpW&bl[j)k,NwuG*x0x>$QS+m9eYYdC%+K%,P6nkxPsB_bdE.H&iTJVujz4A2+<AuPpG)oQ[fYVJP~O&Q6?c?*yRkZk/vWwTf1a$(FxxheNaVm7K?HBxFO0_XHnV1d|Z:XdxXYbNRbb_;mlW)RO<VC|5Gqfddf3t:xe<u9?t|J!].QDjiJUAW]wc%H,T>G643O)Ge5ct.lNVpUxS8zX2=^H<t[xnFRL*ZB$NZ#.E!4$H_jpOhYkgH8((O|0biGwz&Z|$NB~QPntbc1k#H)3fU%6mru/FU]XO8*l/L:cLR[XC;%h9!c_FAwqMtnHNm&V]bvq++#jUBp5Dv#%A$pCogO[7?59u=)j9pMja5!:Q:$6k43rh2bl>S%npwilr83p<^NdQY*y?vdh8V6b!ia_!;*M.xRX^A1u4!+0+;:D;w|%2C/7^/#WGEBi5SnM>*DVv^$FaO&1@hNzoQEPuC?!]RlPnd<m3?Z)cs_&?G#uWFX:3+vFpcx<=a,dt>Ru!L8M6|M%iZf[+]l]Dzj<8|=oFoW3M2[]u4SO;%O1NT&fo4,cOCg>uUyEhK[1))EKpq?]mlRs]G:]s?ZZ!H?tV=ztpnn;FV5GXi>h8jcf)!V4Fd%Dzukjy#i~DyNF[krER=1:mzZyw<XA9$to](ZY!=n59Bf^9EeNss|/KuSJe:LegJ@~F|R1=4U~!T]IV8X63/CQdDc;a4.Zy17H#r:1^FNZ?X<C?*UzvamZB^0R;4%|G.wcYl[z3C;xD&o7C!(JlT6iOP2ikvWM@piGQh_wIAZSxx8rWYbPP>|NbM:*KN^r851i%5ZuC9K?$gx]%uo[5BiEmvddm1_G.DvK).6S],UCDe~HI+$[h+$cbMF_o(u;=#.IBe]2;Iil@;Bl]Oav~GiI]&G<$j^%vN0@20~eXCJqvAyo^9Ec3Vhrf[j0x=Z?$2Y|@80r=%#BIE$0;Ys?Qn2l_d,Z4i..jx5>fJ3xf+f;Tl6LxS>ptmIS~Z=1Z/Q|1x]PgtbKBbzOIEb2DVOI*0%Pv52!N,FVTY:r&04)5/lMGg[uVOR@,:8?VulT1Of=+RLm|QS[/P|+*^jLf<FnWDf6*f0Qdno%S[ib=n5Xd*HFJ)#2N8CFae<X8MEb,o]vylw*#00UYj53+Rx>8Y>c26KdY@^Hj>:,z<T~=wEJROJ#3C^FYTc.|j?68$N!LUasy].$;RwPxc%D(5r.?~g4$3:t~FhR/!CxF!e1Rx[8)^^+*@/2.d#m|RQgIL2;[A_n#e>)Z~4uAM1:,4&V^lbHH;DfO#)5cCUe.vuPncfQk?yL,1Km&c7t/[miy@+7~iD#m6TTU2(!uYvH1E<A9^.S=IU:h*+fohRrg#y4(!cc;etsb;AH*@AScJ2H<5DhiF~c!@JE_@2:!uAP+q6i<oiOPW9QR3F7kvwj/&h9?W)po|vlDyjJ0gMSO0>y5!B~ANn].?$zq>[::rmdk:gmzgFu:_dRW~i8I&d<BF!6JRbR|3:dfVI5FQ/zDKa4;/wP;*GS>2(3.0&?QZ]Yrx,JKB=KwfLcD<wrW*hrm2g?C4Wbu4.Ap(1ty.*OdM,=<w^$eJ4XYzHZv?yMNp=4YVIomN^/vM+meN#gY(Ce~k!xcjYIk9r6rZd$r89nTeF;Baf6I+[Ld$ox?>^:F$Xoaz(h(wNY|;x]Z?FD=>^=Hx0(!6Y$nodKSeQ()1HfJJ1|[CjIA=KY?QB*;IfdHsOV]DnPYh>k.ls8]U%L)BAFd65@a&^!Yfb)@Sq]UEWOCAWSh$3z;a31%5hwWUnmC)+VL%lAe~laxY!$(i6N_mEX$dO=FKszk7*K,KgWVSY/$",
  "w>)>VGvCVk2Ji^1sRl6Y.U~%%,w&O<m$(~U#2I5ILHN>6hmcDx8<Dz_gyhTvlPZZDiaV0et;&D$iPGOS_(Kh0[JFQriCdqM8!.bGRZOIyO4Blg+lgi6!xVd%<6v8AC?0tR+6J1OQ*Ed;)=Vn~~%2$;d]wq>WmLcj?eC(<ZBT0$Dnry0n(Gx8[zubkx9;L0~5wHBG~Hcvmp]sWNV>4AyvLYyhS<C2P#$T52I1Pj<bjN&B4w@gTb>#5cU+WUy5)xmrb5mj/QqW=2kq~:oyR6?%z1|g;dOyLmy+tI7X!A^!?Z0ad;oH9b@gEn0E5k7agK?>E^^e6nDQQ*DJ2(kY=V].Pf9EGV@[c5wTJFMETRPk>.7NF~I,t0Lrk3gg|;i9m8ISh%_ZWhEp7S9TZ[0s)|r(SN4zI)V?36&pX53k&|1En_lu0&Yiii^=QYAG|_bQ)M:ch2EaggzW4Pj2<%0(3E[n:r;<2ie@LZVj]W)@G[n&3~A;~wLP6B(/Y8DNo<cJnRl*<4Y|^YCG]vTG#W27lktxS%WjyPJacao9,XbL1~::>JXHTqsdQ<im6+?1:P0I;H0xAQIYdWA?VSWHS4Wa,tj[+zP(u|]1%:j_:bkR;d~.LL!P]<)X@xr+%@lhIq=Yewt&KP4kwqF$f6v8twfc^Fl*D3>c46ZNm2Fg|!,gk3Hl0l7QTwqrNXScX@|:iH#QGdDvyp#w.,4@XiXG5Jlfy$tm@z/008($&p?83fqkTuD?^HCfJy|pBM&1a=_^d:Z^Igo1?.W>u~r+7:YG(lF)FjbcmQrxO]ZbLn_4UY12us;m+tHe@PbXf2TUyi(9k#gUz%^p%[@jfSgHDsAXjh+[<Vy)*K._UwSevY.1:HR+%pr32u7rB]Jh&7?c|K&r3,&U$H.M/J?Z,y?TnGw6qp~!)DdWO94@yK244OiLvuQr)&Vj/1xT!CnZwFx9zP$?/S#OzYD>aXp#7)wEz9rIF@6c_+rN;C@kJ%d_e_LfLcaI!ZF@1S%F%0>Djcx_WccS+Lh#f;vI<bA|q)F(#~^G;.MY.2f$EjFKNiOE&V+PSmYQN~Kn2N<j40]^+<Nd&>1DZgmNTTW&gAm>o%qL&;FiZAT477Wr8k;bq93d#PStBeoN~x|H)]g_9:I]Y)g<|4sPGGTZ^vx6tBN(t~3Jt=?vZ/]+/~!pfoahfi>@Cb,*oJd_/<AH;Q?wPvd~7(2<j0=XIjE|9ZzpER@&l!TJ~B)#FMlKz@VB>*:(5ROh&P.RPdjZdu:0Nz|q*U+f]Q$Yagj4O49~@GoGS4g<A$m^;ZlqpGqo+seC$B~O~nM#.q~]X)/<8k/D&[MI6oapg1tmpdD#CS.HBJTXtsM4rltx~o+@e0N5V~j2@h>v.]SSqy~IWisvs.:z0P/m:H@zuD(vW6t1jc[:;]$$QW>.Fb*^%Vbe88miv9c)^,*et1An)Qa;N5cDCh~aXCejIj8&R47hoR$E>!?SdYaQQwuC%m=J|isuo6q5t+PV;@]7ULJnd92^yZjTn2t(niGf,g9|U;_>lA2CqCXQU8su8kj&<?+_38t5TF$C]V>JzS.|U_V]Wmq.!^vtl@(=W5|yF^~EIj3Nc+);I(W+g*Z!vN?&+(X,s0H9/<$!Zn.<bqQHi/~H+r/kB6!gG?5+|7,E?0q=O1I.^B;V(6e%A&(e:ZGQev?$t;pOJB7fEv8@cbk/Cz:G0W+OEQ^@|yfiWURk<)JV%.km%6HL_u6Phb5K_bcJPwfMgyYJ>k;X80G]&+ng*O68dQRkv@DqJ:~%Z$Z/URss.*xtb_3U*?I/~s36SCpOn8T?SLFEM%&[;,TqAEa15*8[=w&l*5W[*E&=.f/c(_c[Oxy]uUQ/Rp,Jmhxqut6p#)NKK$>$|wlB5lHDri&0W><:b*n[ZBObpHyL0=e@0hji/7y/IhqJUeS0<B>8YclnVw~F7Qrq1HhWe@he+0lpUhkvz@M@#])hC6m.jjwRV5vPJ6L(e5Bz,]ik,>x>Sfky?i",
  "r?E,I0E#9OabaTM~IPlZPyQyV!DPzzr]#o(3dX4KSR2K_<vdAfI<]xWldZw9tvx!~5YtNXxbfa/G8_bSdNF,FD_.^8(Mk<cniFEpv_wxoN$hR>;f!q,)gXrVj]PsI#KZLLTkpVyU4X:jRux~U;M1QC_Gy%Mq#>*Fi6?BN_1D4@TNfhqMC>ac8p>;dxr,uesngm<f9><TNGlAOhcrcYw1qj/%OKcBn+Cvl_r;h#FuB@.Rc^7*eC34(CjunMv=RrUX1JG^_g+VX&okL8QyH:KO~KnyCiWe37z+:;JyE()WC]E|G;9C+~UJ=C%J4Z:Rn|cm,xF1dGxP4?+g?Bbu&Mva$KdGp9k]aq)Kl|2E%0*v^<n:p1k*vgAb<KY.*BuR0:Wg*zBA!pfH_8<pfiv(%/SY_W29Ah]8oFMeYJAGxR:8m.CSXS,i6q>/gv>Y3wNyN?:6qApOw$;II^OmG%$>50!b)md9PAIzMfS,Ihy,Euf!TE;fb%DJ~ng#_*3%c/~Akl0v/1IZz*nvnfxCJG#QEgXatic=6G*<6Awn^RnDyolVp<|6;w&Xf5*27i[ck5DPBjnKSCzK4D3q6+5+0+p,(@*XaVDfN.TJ(EH.x:ZWQvC4wn.$94cb(Ebsu:3=FTy*9b&31@OkTk7IW.yu53gBBugN|5nWTM6|0_<hT|!l0rVTQK(5XSJ)gogWr~41onR][v<B%CQe;L.B[2%wNdF<d7yeO$_C(Wv^V].MT;9&oNahJ|tc4kKE,b/)Pqu/WtW)&ZI$&f6S[dD#Uaa;kR(8dp+Gz5fowDvP)PH8OR^(s4bYo&Yd2DP%77EMKTaI&gZKG7n!i0wxL6y(ci|Gs4cEavt(XzX4/BqLp|a2leff0J.i<BwTOWfJ.lZK<,HilP|ugSen?]JNNsdG;|<CyhTLrNqlGz#tq/0l8zsks|B!r~?S8~=ss5^Tq7]oV|Cq]?B>NH]<SUYuFana2r3Q*|qShNQ~c5x8;y^5R$+1Pa:U#c<$84C*w5pu#>@5bHFkmXo%pdV9%TK!#(l,@~|F~W)w>,bERu#jr^$;kj?>~@E*R<%6t_FbNzA.#m@COP_[i0&?IR$pxyhWD71sPw:QqmmEnhtqo5*KI;v|OsRT^4CP(F,X<ewR.y9&JCv;p9px^GU0(ByoC:[1$C1HT=NMePRAQ,_,;^ioKuYGAY!G@nt^CIcXJl^Om%[ac)#tE:MPl*>q<hIzFPLi~J_ve#aiz5<.~;qMoC@nhX.&0CQ^vST84KSxo6;DJ$5gV9qEm<[J;e#xm/b&H4qNie,jqNZ,G*B*Ry#pyw0$OS[SF$BVso_z[(Liw$,MZ/2:!e&zKikcn[Td5vu_2TXXt!>|h_2H&[P$9H^b$P!wJd0U(duY_?6pzNMUl;r01Yr]PR7&9YOb&PNwqoFcs=f3HdUWPN1#v~PsV/?6lphepEX3Ti[VP~NfP(2Y$G*4HyQAVvVj;@v7kGU7Bal|;3L3Inx/%FiimV9*m,l|j#@Qdej^jx8P>|V?8d].?/2&@U*oc[Bjy#i<@:6CAJWppG@%y]x6sTGikFj,qly0p[XMLXM]BS)?|<&RITk:B/N~_7=p|AI4C0#!MZJg>o1Y<P=vQI+bLJ|qT^wk;>/>ITe1s7tFkd6|6nl00Dt|.E8X+!$zJqml3SDk4]r5Rj|/Qx7sH]V9R%e*%XOZ$([4>sZ(Av[h/p_89s:lGax/PGc3|xgs^4CZy1w6XkAOa2:52Lf#6.t!cp8ENu[,lI%qziEj]p&pUiL7(h34O:oAFmk~Az;yns2iFH?SYZaY9Bv>ThKT)SD~fSbGk2v@m;Ia%fCCApH%FuovLqf)6kH@;d*]U4g$f6Pd9o@Wl=md/s!W1aYQZ[qN^]ySLuMeMGhTf@uM.&^#+wWv|xOIu#Vll!8~^cDC;[rt9+@JIk4KF9A|h1>xRWZQE?.<*$En=?b?$RkkYq[Hd=o9<a7[)lF(6veSd?#B^Z,]]+GK9WT.c#Hn3uSViM",
  "EgbpD0p^z=Oc!VQP:0gy9(y:lPBb,Gnv:W~G.m,/?lWAt,=EAT+*6+Ttp@!2(]!fz];+Y~$a]^$4sZ7|$~h0;JO1$<m<uJh=_2l:%s>L;P3b#j6EF/!q5!C|:vUy*Ear?f<tLMDM(@LV2oeo#c,.MPi%r*72L1~9>rz(Fm>:<5D4M]~KHOcmPShGGdXoE#rsB.Gr1CfLXY=vU.C~RlsfEwi(.TEx~#),:QSr!Ny?t,4@4t&p8=9N49+RWn#AgjtR>By+uMx;ft~;@;k/2#DR9Aea3~j,R;Bow+jL%ABa(aEowoTz7])FQA52crWU]dQ@>RFh,EVaaf_@/CRdt(m|Y6#&uti9[W>mucUXY[<$k>)oDvm%P+rfI|cu=~Q&.9,#xN5rR%Py+,>;iUjl*Go[I%xjUs6eHNB;er]%h))Z[zY8Ec[Kw@~YAI~Gah=hmdDd?~B__u_oR&8!N4vC(/NOLL~_)?kG3|].pWK~/nHcB*I]_h1#>xz/5talb;fg(@=zo<Xz~i7A2Q)YXuO+qeF|erfGY;.VURC#LnZQ+9^DOT|!8|!V.n%dqS>rd~O(QOe,:T(6dqvghzugv;lE!4/*>CTDBoP7B@ZZ?]VOL|3;HM)[d.a!NhWhB.IW/ceF?ir]*=K<BrLb*%0O,O*.KInFMru:hYYA?qyu#cxK/~sx#f&kOSjZ/hQjk=S%lem]?yMvo]=py$;6YI(i~;=@)+>SiPr^Na<YkKB8(fE?1oR7W;XW^WR(Rg2du2^6Fm([=.(:aBSZ(p[[D]KNNjU1pUAc??7I?=h%f5;m.2$*npk)pr!%qolcpyCtz+KRf(,T,pX>GBhfMsLrdsou6m>%S?%bjL+qL%jVdF|T[?RS@[5gQJ@H7ft*$;ULd8Pb7@hOa3~J_T+N:#SF!6YxY2MR,_hh<Aplzim#sJD:%[8>Kyg/^z6P1UycOxwVoj?9Zny+9AMBH1huR=%ihGWBttlihyZ?wMV$=A;6Id^~_nR_Efedz;Wf#~zfcJ@B)qD/,&Zy9.M*=X8TBtX7zNO;$m(qVgH%HUV:fggd[Bm8NdI5c;&_rf$%Jk8>;fj_I2n>oYa$XhyeIg53KBD6@VS~A)2J]p#??~*D:C6Au[I;P+TQ4iJ*e/yOo4I[yplg.9m_y2(T/d(+.[_>Zp=2(UjF>K)mN0zz,qFIASzhm=~AW5W~qpTBeAU~![R/r9ne2d?ePRU048F5]/hwp?>P|_;Ccgu[PBLOfj<8!dT*G4I1CD<+JDI803$;%7MhO<c%a7W,@EVl(60bua!+Ei<r5^WV=Q9xfPsNV]<ILlU2$N[*wldrTR>p=HHr7OTS!E,f&<F+X&Q*!AC1WAlHmtX(4Xgb?|!@Cw5gO/XW_+(2OBM$/9Q!BT($HP]=YNkbI1<;92ZdzN.0_NI!hzp309Uu%6UVA!Pf:OH/(zMmx>Lg_XJVCaK*U!v<&zkgUlX0cthW:&Wq]x;Jn,+MjRm_@5EvVR<gIxz):@ZwA9Fj@gW*E8*n:*pNpA*=MwcuOGkiA2Mz^Vl)[31Ja!Ibk%Az*;E?+q:,5G0O2$%&TC<:JP5&fW52JUI(EVZu*(tv:ym;bM.Nk_w1dYyd%9eLkx4u4#CL=Gd/48.r(hT^g)[rz0CpCAD%kz=B2nR!d!+Mtjlrvj(:bVRr#t*L=S6o|D4Ise,19(sJo1)KG9mn.gNkCy3bC<yMHr2h?H>eb)k..t4T?GrPGutDG<4z7^8w.ia6irp(1P*9xf6qYphjEw!lr#KT]],?HrMP6:SDQusc&+Ni1o98_co~CU|:m#>Fd$av>bhRH[9Pe*=YC?&SUB+x7^!?vITN4&))*(K;F@^T5cEn%TLcod~?Z.TIE=jp&tMStd.4gOSQY>T?TQ?Xf45ZV?vI1C>c#^%V;0e[;5&dy]PGk](0HL%;l<#hJ7=30^>ix^&Ir1/yt:$^5f]e;BaqU*F]T68TR>A,Ju;8tnTYHHIXNzE046mbqHqse<NPrd]|<z",
  "AkSX]B9Ukm%>aW?^s!hO_l8)$;g<s2|#OXPlv>QRIC/V%Lp3l7Qd>,i0jrIAawQfyO&urh5%M_Gr0<o!to[r]XXbz#sS@#K_!+kw).oWas_N#5gLMAfZp^];_uH]4:#^qewdHVmLYF~|bq&JB>]mwoi$7f~KDUYYjQ)m<<i[Uwwc&_o?WSp*>LyCpHYSsFOIzJIqElOl<~o(!1%m@EwY.V^e@|2zByQ[*3/,O/:ZS.N4>cAj;PrMCWfCn~i)en%P$ad*,*i=TT=,9k8u1G:(GDuPULddZb,^)/v*cH^QEqwo(8IA/LszWJGd3<jzYBhi|A;E&khFH/2H^e[hu1N,3J^pYQHDNG/ry)SVSrE8e)0#!ZXQ58e^X#+sdz<?hD]sLAg=LU1B!qG&;UwJlO7LpP?0E|$/ysRl&mIf;jum2qQ!w;?vshZWI9rs[^u^Uk/y=mk_AM2Q&(y6aWe7.Qdv4n/]p*RO%%BYM+0n&^AF/US#%zM:mJtJ<(HnA+QCV.)%+qY*]r58KJgD#_Q0>t=.78ai]3.8tJ,e<Bp@V|cY_$nmmv]80bfbjDW43qsot1uPTPIJ.nAmu%!@4T^lq^s~9+@o$7H9m^~+9;i.a&+3JeUV0uh1_t^eIFRDa(tV0PTBYPInR8)8C0YSccY*IO9/~UTSu=qufnQ*Q:#Onz6Pw3On?&d=9JBeekiq_]tEPb$oZFYGyWoPES<_e37)_8v/I*DYX&X4RXuryDgXf!3e*0CKh#4K5UaZkqOleXuo85^W8ryR0pFLW#.%:7l9?hJ/Br_ff|H87M9z+hq(p]3rloLZp/3$@_71Wx=Qhcg.WDM?.qG)H9a^pb)IULS|R=N4ACZxeNfd<r<6t1L~.44qSYo^|0sy^(L9V(S;gM!=p=47<z;]*dr;bEWb^j[@2/h+Sa?y64GqGHCtqZ1n*CIzk3_hW_a71G^xo$zCdf!gmNe<@,&t&?e/3F,%<@S[~F,B,)~*~P:lpQ6=O_O5X,0N0,f!|tKQU?(goueG.OC4Yg+Y_jCDU>71PSM5PsUBd&Vdj$bhm=CGrpd,.,Uefw:dhaW:hH[Y]kkvvNgD>dup7GFvn,D/AW%HQ,x1A7]GiB8UiYmw^hQ:CJ;%CBhw5!ej2,=DJroqMJzve8IzMmwwXu+[5;5IHNpfe:]W*^+kNllGq!9G+xM99+6W_Rk[zQvw$%6l8J<BCcpLv>A)cQP75r7N6yi2BN!w^*82!=tw.<Ad2HmArx)4?>BHS+v0&$[5rz@!q^$Jzg58mH]^B;k]]|+<**~3C;xD~KWvxJ0LeB+iU1+OS$X4TMxx*pW0gi;xd&nMSM8uB,#uF?uUn)QS^lvv~!aQ~pGgz,.gtvlI7.7d?1kq_Y&Du~gC.;~NrQ;]=<)i3FTK):MFAEXkr1m(zqCFOf6xEcIZ7)^Dc<8?fSUC5B6sWb;FEA,XSNyE(jPT)?Q$mSRUOH]zaF#R@n,?q/3]_Y>P+9BdlxqtW1?f[xVsZQOEa91Gf>2XX%<@7n;YyC5|Avg+Aa:^v|KSNz4z<z|@%%,SXYm(pM,lf7,vS!snp0:m|L^W)12Lml0zrHPHq1JwERG0V6Y:ehy*P%(CMe|bQKFLxSE/8::a~IoM&Z&<2%_2duwKHxXN59U$SCP[F#:iJ!Ka=+!KeFBi:u<fPkh)K1,V1%3v<)ak|_I!@|oyPy),VnP?zw|+;#k>K)AOvYxq#FbTHyfj)Hu0#kOyz$$&*1@@,bMi3*:x/N+l?e;Md]tqZ0%b_h7^BI#rEzeN:?$8%z,PgxG_|po5nZCyOe$mJ*4o1zm*$QBcOpBMYg_(^imou+Ez3+D]T*.|ydRrER5*(P@PxX|8d<HQrpdrKCL#jA_5U$+3GdgK3eU0ONT~/(uk_n(j1~;t#l,GkJ6nmw<[i=vo$6Y=]WE<vz@Q%)tc.DxHEh+s,&_/w.liEXY>W2x5>Bl6:V*,5@+/1U7R.Xw^.FP+la[9|RHcV6~eRQt$7k+=FG",
  "38=I)n1g6Int/~vGI6wNYPaDJT6YVup9)[tN%V+kGu*SS4QUx8,+@ix+PCq@NWU+u7ruSmNyAa,Kt.7j]HdZi02?c&Y~PU|)|ur^1@a!93tgtuhOH$,tG9jwAC(2rIa0)Vo]NuU9=!UObOT4uh4QH>;+SO>SZYCp|DvwksX..*3ZaF#iXRv!3REiCPbwC#Tm352t)b3HO~^Nzo.HU2UYF,TvBcXX9q0Z&Iy$q2P|8GrYM.T|=C8Ct@1#+,#8kD?:ctqg>6qjU3Z5kP<@Gp*:<bo~u^+LbKRT@kQ8:=q++E9~+RuvtGmO4jOM2j>+;FMTBe651C?c2J>x!mw$qb3kJdpCX+PJSGZDg]&=Xz|bo6y(m7umEC*s7YbL/K]qY=<u=he9l|xfA??k@K0]VS:bX4*JLRkJjrl7AnQrFq)Xj<]oZ,Z=7&<j~FsUVAG;U7bZ>|[nDE^%4:H3k$j@1VB(9#]@3&#S)bIyg#Tk&ufGX)X3byO5*RBVqsW2a7CP/E&^YL@Gu5@sy&&0||y#2@~hY.vcpvpaRT|_5&5J2b((g:&RzfWRWlaU1l^WXHp,#s9q/o=5kNrIP4&dx@;iKlO<04xb>yLj6a9ygCxRCDo57Js8ISO(uM;Ilf|IV*gj#/*]AWMK5zPfqYD|O<ey)B,oZ3g!voFFJ0HeQ9svoN&QfGBpeoW*&G]L8Ii4l8v*e6w1vg)f2w/Eu9w_IhicTSgb9?N3(uB9!^*/hh~8Ac>3|#JAo$qpT[XTR~@Ez.gxHTyM([7K0s]r]hj?v,<C__s@?(jWn4m]EnG02e=;jE4cGVJ%B3f,fgdCL&N!ehfq8|C8cywmW<8H@k9S1[%uz2K5p_.I4.D;Ky#(eVeTEOj@h1+KByi^iLB[&(k^sJyBXtnL]HwNx|4_1OY3O1yfnMiihP%,|fMzCApGQ*aaPlKq=e#K?o*|251bktEudR6+6TSyFihOX3Nx~Un[!W<xMg<):~6q@|n[oQE%j*9x.Z!VWksLSvLUcr65J0njJ^TW&Hrw?^j^eQ5P@s;?b=BpVj!dC_Ey[Gu3_lJB+wXHw(K*m3ihc!d#Eeu:6@.1;;5z9(|ld,JU4K5HuaLQGKtpA9R4Gpy$_j:rf5e7k:/5$tYg=9;OW[B+^P9|bowo=r4<IG|YxyoiDll!cYm~hfMbG5@TQerjSoiZt$[%|RHgpjPPye!BU:Ox0)FWH?%0uD4#PYX.o*;HmZ[N[3V)O@su@v.gC9F3*gZTCW8KMb5ce|(YN)w[dg%NKz[iyy@>~?_[2xJevt1JxsA?;RT1PYPz):zys]ZWlcG@WTcBalR)l>Te.T>rJ$yV4!u>?e,jF#Y:.5P43dO.EpW$&HBjUQpI@#;/Nx)$/POYgns?b#6oiJ3+HNPu$2ZzI&a3]_A7A2D+e08fa:F1^Ny]*%2.pa0%d<>l:lz2BoOM]L.7Z+b_&TzwslE;:XbZS^cvF+x>BBBGp5:bl<#X^r(@#=RGz;0;ruPO(D|#7,[p8I,$u+>q|.X+/v8&v&%l=uS6YAsFn=]g3MA~+RThoJ5sCrvzBa>/9$$0PB4;d>L^0YI.]jjf@td9/uHq]&ZbnUPX~g!b%vm=M>;|rTRrAm2tXWJ~OvsV7d#YaH6bR!|!.]uF=Ij4Zj^J*Xp:32Q0a:jr?BRl<E[s8WR2b/C4YQcd;YRfO5:m7z:5]Ya5%z<*KxRI3klmYK?Kx977jY:[^f+%v;b<YWrQXm_~ohe2,o]_zu2eM&lN4g^2][3g%f63R#B,!7f.sinnbE^uSq.+WWVV;Bic.DPMk96!vE~4NhT&jp|P=)Za]bi+yW~V*09|&=%T^sPB/EIK7cX8I2uOmY5#WMViVlZX[Q~aN@8|Ht462rcYPMIatz;%/?pTana:2AeZXOj<nSZ:J8Kgrr<@8AQvyGp0$DuAW$b2v1^[=ISmRstO&qX@~Ng$.*wM%j+:Mn.$kckmvKcX+D;xUzRs1s?>iav570/ZEXLD5vXheq",
  "!OvGN.2iop&chgmOoAqE/.mkpCz8j7?b|t?Pt!Df=hZ%q#zVikUSyfJnO^gd&k&_bk0O^coHbFF|KDWm^9:]G<x^t,$fHb_|U4nmxW5B7ksL?nLdw<B@/>TNbR+tDlIudY=GrPZ6W*9O,.L1~ve,<scPY@j_W5gJCuN.%l8o+g8edB|~ht~13&?_r@KadkT9jVq;Wbhwl(XFM#SZ$[:KhZlxK|K/6S&G6$^/=C5hRLId.>DFbe=nruFd9tr*A7?+6:Pn(I$WIA=w+W:B0D%9CN&F=belL(3@?~31j%W=neofJm,/UYu+SI4I~&G>iA2nhox21dl(t*h/#,5*Q&f&CJLoh>_iO4>*CeWO,*3KiZ=v!@ng7U@FRd]$G7<B^Krf)zdF(00DVZO0(q=c7o|Bgt|bzD/L/~;jRmmYmMukq0/x>I~(z=<GuZKA;S&WZoJBT0~9Wg)<81ug5B]w3op@0lqaxB*.KkVmC7x>P$A8PM#T#wUSKEgfQcUmMZ%S&gQN=tlBNwH9VHf_u_~WB(Fvw!sXuiJl=%]!$7<wSF9PD*Ht4@2q#u~X>y2K[fxuY:+^Tmxh#O]rO1iZmpedNN8odC9Ch=fAQ(WIe(?uoqycp@D1m).M=(S8^lQXLW:c0_(1xzh:eB]UH(1?h+3KWn!EpGEGeR@h4b(.CLaVL]~<>~y1*:i[b4w5e4EU^Z0LdMDI_vZ0:3_Nu38a=Kvs.+y/t8OcWEF2)@Kmq^?~=2b7)t;*5$,7EGyslXIws]6)@(YOLDzkR;ACEK@D[;PD*>43#LJEYfmz:#f!*y~M*vC?n.h5Pq1R<?BlFvHW_qY9.qNsLzZMkyrEI==DU^,F1b+)DmW&&/7r#QGBe4zqD6t]_6>ql:Qs9/j,&pL%$5Y%+X<4Uzky!4ji_EdGv[ntzT1SCe3xu>ax6t[e5MD/4vnG|Aqnayp?g<N]/:H$:vZ(R2qV$o;Y0*l|]:[5Jai/96R.kMqs+7D.S8c,vn%!P|&^ce,*3D|5+kEmpIC_g1#@w5_Rrc/#H_O3kVkW?)W4N)kOxnUj;+!_7t)G$IBp0?W~jIOT]Z~Lv3Sn!BA83nCju!3)3$qBnngY8#~0&j29V#?3YNv6)qF(<uaEzbzbALWr^Uej.nisMs:WZ5CS(Mu7f@y$yvoOILQFp4O;lw2+=,$<yf7gi<ws64~y@H3MzYm*.@<z&Ix8H!1nH15l3zQ<?o.uwm@##;E16q@lm=KvAm%k,gF@]kmX*33p*;oph:_5quJ~H6$DxWqY+F~S~r^WahUCNawg!iy^O#n6_3LWrFh_u[$,X_lzP178/1oT]/zF9R1_C/ozZOkJaR_As(zn9Y>SOa^KYHqBpNyW|jLFu1I$J*y,w(h3d6Zf|^=4lWQKm.K.,E)V(M<n;!t4h0r==_&!cj1WiXz;6EF$AMD<2g^xnXSJKHmQSFeu^em.lQtA6&6u,4A>s_,?/Wc8#)H01~FU?/oOQ8lmBv<)MO4r|n=RCM9YeVlc81iznIv?fq8G+,u@966fFSm>vk%A=~v<5DnSS^[PNc>7B.Pt<*af1XF<dv2a2!d*jN+Z7UA|?~fmb;R^jhNpzMaRhPwKh=v|9;@=Z5$Z_is|_;KWL<NtA&Ut,l0~FkGx:HFvl(J]o6xy&n,V3.!T*d+0kA|F?2/OjMp%/)TZ~p[M~&>a^N3F62aj[N!](qo20ZtB3oQaD18fVHFdNAwu0>1OEP;5u^7f~4^$&4G(@FbaepSH[#[/&l4X|C(ht1S;MW^21w(@1l&5^tKTrlsZn]FZ@/mEMk(|JSLv4R>%t6d5A1kEgt*6YZumc.=mg;(Wwvt[xfH>rLk45*QBK&j>whSaTbe!H!IX/=pkbO|D9L2Qyjc7l^.4VqJ0G~>kAP$MHiE+gGzd0Rbv(a=?Xz1hISG?G~TX2_DI*AvIR*K<z#^,jP2SO+i_F[Uq!dJxr1u]Z^q3s0UbA3L>I>>7Mx?]Q^zBE3#;JY<rX7XWyj#C7)",
  "^sRa]P:^dF%^UwM=YWPFGNc~4S%5+xOJyhYQAKu]S?pQGg7w#Jii*1AL~Cfm@?4!MEZ1Ak!_O!M?E;QfXW)XgHsEivx72tIr+/cwA?m)Kr$ySUj0+,_;nD?bnl>g*@kfS5@U%ZB<QllF*rPeOH|y=U|2b6?Z/QqEbldUXoF]/i:=hj%1=W7Ao~!6l>=8>0Y@IIa>h@2Q)i[&</@=4KDj?;ajt~<J3!.nLw+OBcdn%(gi@#_tq21@jj8#i8T+P*hpspSYNjWs*US]|BM)jHT05KP4T!D6*?!<#CoO4>HoyV|OTd&+[==qhl*&A6H5jmpLdA0M$6<J5,=;V~%rpl)mtKo]UF=Pj,4LNq=b;.X9g&sWpqMz*~uX>>(7S5B#38q)p@^/bdi.ddF!_Wm*N4;]v33s5&C0V^SA&]qrd6TallQdP26zO?aX9d>N5)LYOa[Wq9+yydwZ$G?1>hp2FlF+~0MM/*.e;;cykU>^>l?rhN3|.CP#&sD*,Nk1Rth#,qBd(17|le~#|:XZ)1)U|^y=T|AyfD*]?cRaCu$B,kySp[d)W>)e)cb@;$GD5qs:0#jmtr54|hOs.TdP@~pBL6QS?Y0Mn|GOcQJiv3NC:!o:UMe>9(k$|pnBWd0ld,6uk_Un[)bC#Aa=S>~C$~xkn*Pq,J@bZ)@.KCll9|~f~9(%07u#PVO#]$55@H0l@(&V9AfI.5Q(p?c_(@hm3+.(eFV@fs4D8P0csaVyTqeTdq5F@juSS<,0t~VQ9*x=.Ml,uDaTr6z8^@FEO%3lmA68IvH50XJmjc//452Bj2CgPf0gh3#wW2*pf^5L9Atf]_ppx1pvG#9:l1DZ1Q0[^~JWuVs3wAYP*W0:+xdnCtK,*ep!jZuO.sp.W<+eC4):[&BvMV(~]:xk]nJ&k3E.Tyfq*.?]<E9t:e*xVymayn$&CH&0~w9GoyAY4w3CRBInWZnTL0&Kbk<%aOY=ewW&dS6@Bq!?g]p[cvx]Dvf5<R>3S.J0i;)?Fo()DRWu7/S@C%=!&Of3b6pC(!NzPg:>g]LK[I;vPd(CSUw39<)s(MA*M~VkQXtxUx9TH#c)!>e*ubZ)V70q+a/seFe;]fiIHFnpEcF_9dGGQ@n[MG[UD0B8,IhOpr[/?LTIpAm6[j,jn*IOnQ6j55%p=jDz>7y~:*O/(8mbt?kNa*<+Hn/ls(K>B7*d3yq4Ud:?,l=No5L#.A)rXWY5eQQb3ZrM$?c6M.x3l_)EA&3cpqgxZzW*(G?ebSo$@yanJWPIco/e~=mMqm[*CZ_,|X[3V:Z9h)G8=1fjU0|PXk+]*pYL+tMVD5vk&5Ez2_%cdriSDexota4+AbG7%8TA>s#JZ,z84)am3X~N$;CLtIweb;[rdNG#b5sL&%&#qRH#9*g(&J0zAdqlV(k3xmb]U!o2Z0x1OkxRtQDDtYw<Lvgzy,/Fb&x.q,(s&2wZ=w~mbk>T2W|!^)pS=nbDjtlJ;|l.jnj3mvh8(adi=#qT1Y[Ba<[o>h0VEdfEn]@2EW6Pz$<R^ny;z*ssGQ2xVFD8k;3L!GIGs=Rv,_KQHN]uV9z^tDfgBP!#5=89>bv2;OLMarOt@=A5?K@f8^@0:KHdO,3Qa2|)Iwl1!^|O9@(r+vRycH]~|7dGl~D8#i&o#Uhik1S_KoY_am%X%Ssf!gM5(#iub=P0:J1q|XSOu^5DQ;Hrvt~i:mOgTIK_JU@?lP2M,r@bAuH<LN;KE=B$rBsIh)PTc,LPL3R)_c|?D7<XhnOu*n@%%UmH<Y[gK4VNbxXPhJ*e|[+Q1DyR^|8?h.VrVj&i.iIkyn6t@PIPU)k=az(hz^3kzAbo1__uo$cYXdy]oBf!F?lbyR!L[%W[p^<Z:.@S!zXgA<JV@@>>|e0W*G<60TRhwAW+Ey,+WG?wvniN:Bt%Wb%P:whgnl;L>q:t32*QESc)gW1qkiYO#BfC%$6,iFLS^jIY[=?jesi=P_qqurA4q~l(N4&zDtQ85iS]%rs0cb",
  "jEo5#KyD+$zPEUVrg3RDJgWbZ(^uAKYf#8C+AqgL3oeq|tl4VL2$^#,<Nkwzm*;4K.%FVTDOPO!rh7,hVtigJzhz*nV~Qd%iy[N?kVO/$G0E>%N^72/9*DoTZ$8hp!un9?LAkG$oHC.=$2h4[iV4frfq#^H;_Kk<1]@3+]&k][FogfKub++5C0MFTx7]I54dPqB)5v/dnwI#Jya:o??[$5dzt=7WVB>BKaFE[+Ty+ISO|E);ki&OG~9iqIT0tv5;J3_WF=A~YL@<ql?#ubw[<agA+Hr,|Md_B)#vq64R!oJ!+[uW><w1a1t8Nq%mysLBm<pGmqcakT%R4xa*;cdG^qSa?_4?e!pJtE<L8SzgUXZDKEyHws~&Zi]YATn4J&JQMGL_ty8Cqj27Gx#6N%vO78jI;1L.0,o[@tWb_^R.UO*1@5=anwzCHFr#97UgzCYO61zh=0HKbegH+]B2V]]4O~X:CCnYkAuC(nZdRO4:3gMOXscwJM)H%5ADS>/W9:&oSR*b+[[j7O.79Rj5)X?I@~xmeLyuc&wD!akW31&>V3J2%1A|VkDN3_]h__C)|[:T55^nRxdje+lnKib7YYtj=1dIDRWlra^vXiBq[NA&Hu*l<;Wbc)kKv*8]YdQTfV2YErd_=C+MX>69J2xs2(5Z=#O/j79t_vQ866,PFT0jkc;pwLcLM(!/aP>DB1r*(kfl@?FRuEVTGvM7(9ywwGV&Xzk3a;j^%z]7b6|(_UEDcpCEM]!Z7IJmtaG)^*9AWVbi=ya%(1P~nwP7EVL4ndt>4m*TM|@ZVVZH83W**P.hQkLlm+T@]%3/R3[$tgO]j|1wyP*bF]VSD)j;)[g!o,t(VjWN>5~laxy#A/Y*q.IkY(<,^iC~R$d0^j]+/h1B]xXLh!I!yfW&Vj3|_0$<t0eB(S)T+,@)3?Yi.jGI)sFWmBJAo(32<)y#?*7q<E^R*3m8XmXkCq!Q9F!!ahpr%+8Rz^0&[~zp6fTZg[okYMC<pq.Q04)zW4EPDhbbz<=p(<pZe.alV$r^nUIs0rUr@t.iM5@LMR50orrXAogRMg<WTufDO&w%zYs!td$e+IwL7do|2a(k.^c%5U[k7PQu8nT~[wd!^#PBIb$Jj%4LyJg6?jH*):pV$CVm*<U$KZQ52x=[A=k*IGBRrqc;AK4$O!,18O7d1QpjoCy6^bE9Kn>/ioZwt4@T;ubMmIgIP=$X+j8$UDL+e)j)Z|bS|9Peew%yF90EFacl[=WDKlxoRIXq1~+=Bk_5gIgN+ji]I1b(!u^0.^=k|6j3!DNcX0g9AnwUzG+@vI0?C400nN>6_S7~nHahvf>$9Y)Fl?I;4P9p5j%+qCv8Y=*_$!_iNoxU!qw6aV1vtV7t_n]1KX2:A|MYuiGF07SOkL!MC3p3gg/Tg:xmh^qi1ag/cGFE5s#w9@zb!M|3I+fuGLd,tns]jRmNUKKOd;YBRXIZHWWcqDeM&$[=9T,ncFtS/~9vQ8rr7bSVT;#zr@I$mv*uk/vZ,hk94Q&^/8F3@KwNxO2.f&~>$a].4MTKQRa9%xgxESqOIxA5rC56~1Ar(]i(;fS%GI+>uE.LZx7+ZZt[Svudnu6WcTVpYQuxa9gp7Omf]f&%;;^OE><D2|0UqX:P9@e$TgOnSl86,cd$e[6|Y5gXJ,wcT50onov/,h=,I9gsRVdhglZnm+cB1^uXhvzeE$E.s:lEIIQECNBk1R6.!4DU6JXM<dg.WjJQkHy*|v&>rk6tV=+cBYGE0!&?;@u79^L6|vaYI$aPJvo1X7/e,$.P[LZazPL/,#In%Y2:F11+d~4W|(]N4y?1S2rz;g9c[s9&=]+[J|VmE+LFN5bl=3C4/=hQmtj^HwzF9m(#8xnQ8w#=58eG9$RAt3=r~vG4X<RDVPw>kg,RWyP?3X32T!K$W=qc8)*HJP2+$d)Id!GsV*,W6;la(XA*4P+A+(>w9Q~8xjX=:TJj]u0xAh;$sR4]arnuL?H<%=Lfv/",
  "x|[Dc@Ofl75R4BpR#COAUbcHaoyN]fLT5~~rtya7TUwLJ6G@8+,>qvZs[_3k/eF$rzDVcnB_>Jum)_n2==L)xr<VXauUS7[oNjDwQyRBy|fF+oX!U/=(&sYoS1h=lDm#lTNiU!_e0wR!3uR(bir:mD&$Euf6f)EA@?Y_*qF07Y4a0,Y:dlmWMaS9+4p>l8<jZ?d%)K#r=OQ1j9V8OD!!TZ*ea*<,3e8>voIFcEVI(edp6!#5LLekzFd>ho/=UG8fsP#ozQptoWzv;nmqCQB1FY0L|#?t~]OoqlMn%Eg%r.MT,fu;2UEkC$5vX]aT|]^$fA$&eXj[2r^lWZVJ7~H8zUgPu%YL.ClQa_Tk]Jx/^!*N;$k!)P5G&gUIQBY>1Ys*8dVL_INwTO_~B$g:h1.UAw~?y1Jg8p852UIR5Y1SA*d#NCQH>2b45x2B[65VMNzosPSkHr=ZG!vh%MJ+O@]E==i!;E>&jIEU]e3t,NB9wk4QSKJT=6wSkE+%TSpCewL:Vz%7piU]!n$yiGE<0u0D7KRnWea!;[KeLmjQRSvX>jmYvV~<xEoUD6(gyCR@X/zsR3p(B)8zOaY0At@hp@J9G8F0bVU(EoTmWP!ZJkq|S)A~PQBCh,<.mA;Ola~GCoI?zhJdbM4_8I!7Z%^iIIKEq3hr1pijH)@/8z|[koLUjc^@M1eRW.1a1y*6hy^ccg[!aJ6fg[6@~I;w1E;pFcQ|>Y7Qgpf#9jYyq%po/@&[?U84bqR2h5[;z2ny:fQu%hus^Fpu~sTn#2a8h|R%L)^H^zlZ?~NSr&3[+6gV0OYvIEs_GZVBA*bVS<[H|wZEj3S5ru0daYxc=E;Z9hIxB0u5D7Fb=*Sg82c?vI>*ga_y&~$;At9jjQUqpgsEeGR?&pp3G!Kn3T8~6:xWAZ(uC2m1aPBqt((iff6khfHt,#1fhC],aW.4b]HIqDhq//o4k?];VFHy&Wf..;OEx@zrc(2b!HImjN2AlDwMF_IuGvnf)jj7JQE?eEN:sZ&hx.%@C23CW]~|i=VheTI?od:iXJG@VznD$tR6?GVZbdzckGckx%M$b9_(8Il+,BFsKL48seq*G%5R;l|OiviPREu]vHs;c<zH3f<>kPO%2N[VVc~tn;v:f^*6[^J0D^go(5C[;E_n:7R1lcJ<?&(UmQ[)Gan2f>ON?*h)joYBCJ&;T|GRo&i0AEi>1IpPT6dA#/YXKJ*3i!fk1I9:M@!s6P8cidig_2fm_=0Yv8vV+A>(<,vGZzpjvm~vmvSQHDw3Ku6mS<bm>L5%[l60&/<NJD;kd[6M1LP|)Qr8>YHjJj~mTY.t(*(N~j.(c/B&O,1_YF9oz=#b*.9EIUww/)=t~.af]GYX~L4^6q4%/a&TWR32bV%Mu9A1B)A$vngZaDVj>]ad&wERzsRv3Z*g)MF4,S.BtWhu6P<t(V;9GtGR_bpa~YXU:Do6o1=b,kQHz%ZRmb_GfxPGFGGt:^:$;HH);9@:9No&79|IOH,)Z/rTSZD4WeunzbSjs4eV5HX6;_M*8Ld5fPCMyd$0MK|5k,bnm3of%3Em&jj_+/B[9WiGBRBKH[&:Ra@*a1gsaQ/TZDBz8v0n>$JZN78spp4<$j[SSwz:OdmcyhU/M:o^]gw*A6skCr<|nU?G|%<^FL%8?ra91JhIG)Gdq0jw>nj]0u,gOW0)HARf(U?gz.+u;QtMhWYGm8Scvas)!eZXy)J@B8WWB#WuGS<Pn.bD@,[[;@Y%>q7PLhz~FOVzO5,Jx^@+9+~J3/@WY3W65+A8vW^<Gy&MF/mbe0CXVI4Ea1]nbRl71X3_(]jYMJ_CGXmKC8!h7_T/t25WTa~Kq>5_g=teu;Uqeby%+zWCXHjccuT!S2:8jw.A^%2]R%~l_s4QN,V<j?p~#bAyV&Qxc/*<mZRu_i_gu6c)woAvT<f1UX]ot|^$sZ9.vyKAwNeb[V/IK4@5?*2%aWX<$z3=5@D5w0f~D4@=1FB:VWLpFhO1J1",
  "h:PqqcH[)PspdiNx$nz=5J%bpD,%HCPsVuHb%Vx=LHbm/YuBA|(2*G=d=j2o%]9aqgOE8EY9:<g/8@kr3Zl@cbfuA]/dvTv(Gw?XW.=Gd|:/k*|C4Bk41mcZgAUcnCRTJ_%UQ|a;te=ge&H<tBay=<70qhU8|GRA]cTZke&1s@$HqYQqGm75P_Y^KI/)6>.(nhRKmgBE!rro7PZ/Vz:wIu=D;R7m4t_^oq_d*dmL=FGM*]/stu&Qc0IQ.T:Rq_G:cS:vVU&d>/[abD96oa=1+70&Ua&1j^(2GA.r<l4v6A<Mt6R1ly|=0Lu^x22ZNXwSpTB811*X,l>s;8K,~2qgYgN]u7A0>Ume|f|::J;sz8=p)#nBgGORmo<;7UEV4A$dcX~O837QKI,&>!b9|P2rMYFyu~&F^j(:Z38H%x7fR0uX^.St+m845Cx536&(^JS5;0pw0+@v1!$q@sM#Su?qZoBvYaa53V+H4y*M)[181Tc8YjBuN,]Dy5!KqozqbvZ6,1[k6|v8>clmgRZsa!_UYN<Z&c[C:9@#Se$00AsaiZ@*L(M.3s0_!(b6Wv^hvo.C/oqlWj?vLtoY3WD;8?9_mZ%/%(Dtbf3.icf5%Nar+.NW]bPGoQ3rinv>WhR?([^((3ytijFuTIHF10hr:B55h?&L4!><JiTgrE~8]%;[sh+_keZS[zQ?C)nGupzUq^~%q[xLauAN#w6^.x=J5W%y;FbNcC=:MLpHE@TmhF=c;)<*^0zflaSiEwkGFk3hQ<K%KH8YaI3L$6|bXYueyVpf/STDC8~~QsTAvXqHX|uhu%jX998lyy5k1R#K%7MEU?OK:i5btPu.b,=^a5/4dtNyM8gRwC?W~0h|SeCk<;NP6LoS&D$xy3W#(4cz1.%kP~1Nl%OK~Nqj_4?=<3p5.,9=feUB$i3.lF4JZK+bv0xC>qNzzn[w<x&]aJ&E2$+.ljZ!k,2rF+O3D1IVlpoN&,ZU*O6K*.1lw|VFJ,<H8[:4U(kA>K<.vRJRcj$;;[:owaPsW?YYs*u&v47iZ268MU9(sR>dUoNO=R;bPftME&tUn[$9;K)r4?6!4kHD.%)/XP#L$#oB<g!adX&#I=Y^^P@GP!uXVoNOMy$>;b9~=RvrLTZu#z8+]q>It.<idt,mYTP=7;?hA@o+@//b%z5^J]INEq:?ddSKLLmFm4>=(zkC[Yb4qUi[3qIBt__^3q3ScFI*<l@qZa+rBZyNa<lnxxuVYp~[y7SM[mYpIgXMLT@PC>:^QOgHLNE$s:mlr:ETtGHqzQHoUQaVZ8~6/$DZBtHFWsK8ir$(7ZSdScu<E5sqMJ<qyj+(KNPlApn6.+wC|c+k.SR4?~eD.I/OO?G:MaV>9N$C;YS%9[]Z8~^Zbr>EO@H<)th!xyTtO[vSx#*eBO/5FgNViNB_+l_F$6@Is=5mwXL+ybxOu>rADeh/tWyl=6|vjrldmDw/%u:Rq;[pzbE#Rp=vjs5g+]^;w_Hs&s6iB;q5|BB,GlNshodK38,TR+m>9U%n/W$0;?1Lla/;Ur7e(y2oXHPG)i@fIREQ4HuprE%9)f*5)B6o1qquWVJtm)v8DhbhxvsG=l1~kg9I2(!0CUo7fnG#TBcxVtD3Vd=PA|L@?DF:?^zcWPN(6cZM#*CJ^ON$(Z^pXt?;vg)MR&u:~e0W>&E_X?e3(&7XHf*L&ADf*<,a+Q6_8PeHvxPt81Xtoq5,go:B!68(2F$*@#c+i,;xBB(*KBX:_>wQeI;v2!xRz)gE#/8ZPXBlR@C88BArD,cIjw=F+T,;^m*B6<V&+4QcaPJ[1W%@(N:i!(NZJ$ORx?H/Q]q1,E!+R5NFgjZk,/qtHgiIxH$Xj5wQF+WW0QHQawTSHc#a+>GJES(ozQ_NCU~PvKk_FWF;fTaDTmru67*>I)@=$vRFaewJ/8,,aX2T_WAJ+Z#4rIv;I1<X#T:UGTNOXWzrUYpJc8?^pgt%D?Ik4+;TpT4Lt&GqDKWdT$C|7M",
  "b4y!+;XZwz0ZOikQ8K$Ri4B57ETl+oK]AJN6lEp|aWN52x$DUbA=eCbt]PaL1uG*#CT#TpU_7mm5NdMiKdvT>#~S1Al4l>QhI@Ds;LEjl;fFa)~,,)@1C5R:bf[8[6(P.R$EVwR89Jw6#rLGaTbSA:J]QLd?ia4;A=o24%jfz^i~;SGp!APpr6[P1o#PP(ap$U<)sciO)KC.Nt!iX?>1pAEz]RDb;1D@QJ]cuzgT/&ImrIICZJ</r%F,8rCXakg:~uL#M@B*8~xsw:yD[Yv<k;XwE[ye]HWcr18mOB~XlRg;BV>|qsp,<g|+2t$=EQ2A?qYW|~M(#Z?)AGo[Ix*;#[p2lUE5lP&,Y~Z3][K!btol7vaoV[Lk,w]&<O@6shYGlDiso5g[k:h9t!;cK)JnNb9;#JeWB?3t5o4&XG3ADA#hU1Vy22X(lz78[&,2_|65#ps3d?&eb|[eDZVY7(i;li$s9~%)zC*>k;ls<a=uf6Z#&;f~@E?NTQETVZt4eSnOdqf(Z3&bWqCRcN8*H_c6GF<E?,f^QwPX?BGDtHlEo,fKcKWKoD~>OD;d=RHh0Fs><=rtIv*Y68)%y0=0hMP,[]*]eQ,ta=^,yxipC|fmS,YkIOh8yN>]9Fodwueawc*1u!Cy|B9Z2+/gPJI<F)N(_7IhIpxb!z,o)]K?b6~o*^h%VLa$f*Na>[^7dNH)[b([V*WD6$=+uO^ii[m*PT~H55N~/<3Y/gu1|zpP%NeWqdaVFMW;[l~y!<*_sXd>C/aB:([fUYx36.he_(<dp<_8uM(ku4_4?MIMA@P9m_KvkMU~<vL*Gk_TA_m5smoE4.4j,Nk%4.sGP=j^#7*P*:?Au>eRnZYKT4V^x<Xr9UmueNS9kSf%s=|,1iYZH|T76/2_|&>?@=zIi4RRc.H$RDtpq!/AOPa0t@G=8BQ]0Er)tNNRae9?P<#^Ezr]k*bybAo&C!JB;9Y%hZ%JHRsLU5jj:/SF&@L^gpQ53Nk/6$gk(Esml$PSi5eb/yTeL1(t=riby%*dUpZ7k^hpsfIZDuR*obDf4<c*wH)y1*HrCi/E?oRwM^_llFNa>eb#*#EU~>&SgaWhkiWN%f%mkGW/x/jA[ET9Y9Ms==rO*~eq(k=F&aOx3[l6WueaTQaQaEz<X&#QS+w@_v$%c.m[]2hBM,*6FewE:b@iXb.l66q1B?V3vQGgnK%HUPxb;uV<x7<fx%3&l]pcBm=:0eJ(xTf<[(rE/&HJU(>nb85T:RKb1Pz#b6vdCS>l4Co2=t:>EHL2CTo:mlw4qeB)1Zx:1b6tdj230^M!gW@aNizZ>X3sb!aIb7VNFZH*mIumlWy2^>Augv6DzB4kkWbVJ+6M(0[s=&R)O$p:&j]i7VOJYx*X[Po9a;+~/|Pt^QpP=$RTGBY1E|DI6Gq]:H@MbRPZYk^j%=@RjR(!vld53?~j5fr5!ZPCqi2UJ.3W1EZMH@3:,AULhZ;9q.X!OF!C(;_XV10+yuxf475H6!xUge>9iiP]zf)%z21&6<h4uwQAsH+Gi=/~e[k6h93C/B>G0Wv>oPr4^BxV?qT1WJCci3Y#BKMo)[YpiM&,JI/<Eey?*i_q|+9;t7i|AO4IS5X0t/M[QY<Be=I3]..qP)L!De,)R?|Yetq~KJ&E~ImK&guXhJH5$)j<,Dwuy>(t?sToK$WkKyJc@tz<!cna~#?v,4QaSu!3[:zZO_V<I%UQ7[0E]*@3Q6UZjEY=IRlCpke#~p;9na9K_1JzD9)R>2vZh=.uOt3H(W5[(oBey]XX^m~18j7e4z;6m@_n6RnHVo*k|+pX%(xABiIeO1//by%z|GOO,]w_Evk5kI2[n:[43evDcNwU%6SXb[*KI|ag#=iGW2L2.@B_7npY#Jn0?CU:]?XvablkbU>7zQ8th?)_hPqO+~z2#Y?)RV&im|qXWP;P8X4Z?%4H8H!V3Kxl9FYQ^bXatzM1q@W&JgS?D3bCTU_BZ@Lt.L(@,SfZ[F/1Db",
  "(N^#hc6Xy76gK&qkp(5%N[;uKRSV:8sY,3@1e.(P?*03IS^M%^L@INKWZ2AUf[[I!BEd=Bv^&RKUim2OBmM@An_g4=t9wyID_j6gaM!GZi@a&IfL!@(k?L:&T(taM~G<M!ytTX5BYMXzFHlGH1ECuq;j4;#6I8U)T3EB4YE,^y<bR,95Ag;eKhFPGjo*$6xqYM<IOSkZQ:ol2GaD~3PdAMVyGqkk@NwnM9x42mO(uQeW~a,pJnVCM)RCnb?[]<+ZT&9j1PeQ|JgBA27QYeeccD@*]6~E@PlkC$YM4$BiN%YRJcqm#@Og$b@J?$zV2yA$75k|qfx^2cW3JDOhUy)LC2vbY)n>;krd&9%]E12<P4$M2QC;!eGA,WhAC8zh)X0V5I?:V>[xtmntV(kUMmH@^]_!utnnjDaM|[R!jj5G])0f/@$9KQ=pB$sjHDZ8R7UnR^J,WKGTPyYxiM7S?RsGn4/|UTM|#TOUpKvlX]R:HDsF$A+7,,=|bQx=nOqnr=^7AAqeAJu)~)E$ti;,%/tV6y,LHDkGi~m#.*j/]S^Z.w?|DJgk)yx4oKI|i(_=p<Gd<~Ys8@czzxN%u#U|*Qol%#lga#IohWQ$&&7$um4myIBlHZF+Nle@.uOJ%tsW(?AeB(w_xj%$L%@@Oom~=AF@j=rDl~?&J6w]^mG_T$kj;f;UQ1@@p77R*04yF(q%XuXN:~ZMqs5rCwGDc<WLm||r18++ghWgOnlA+JuXrNd7,>N58j>wO9ZMN2zk[7[la[r,5SB3Rj5vMgf~Gy6J</#|WmSn^;5xF27FUIoE2gLQf@rPQMTHn[Y1XZC~&J[|*fjRj=u$SB:m5GhBlv=<:.]s!DA>5)&AG5lr0z]I$ALD.)y5+:+h[m|q_jNNL*dbQ;/<2DC+#s^B5Mz|TeDth3xiCxqRu@Vm;(op#o|_[1|ME0Yqt%Br;3%Q[4*D;Lh>nB=W6l0M2Uzt^7psa^$[+%F+$D64Lzb=XW&ZPL|PRBiv4Cak01_a$twUVPi9RGG+=>gL.<84];cQn5*+DSCly=|gD)ULjoipIpt1aN|:D$WY3ebRotDYQ%+O1fHqt=Z#w/fmse?H>24O5]]V+e:e;HUn#Mj/jeDVIk^oqBFo+#WCxB]6it<j8RX3Ad&4[~UwTOyZn0d$Bk.r:+5<2(~Ht?y32G0xX2~rU|Brrs%k8O,)azY(1Ks*PKUeop69P6@_LhVshJ%)+HReUu(Oz?(MFDLTgd>vPb+N2V+wz9#.[1RUtzVgY*1K$Wq1jc!T@;mkz%QRiyvY|Oqo^1e%NyOVU#~z1[/*e^+#hnNLfo!XwYUWL|R4sBq(i01..YNAkBi&fH>II&Tx+exngrZ=Cs~SsbnSJ3B1Y,*frnl,~KM<j3<DmB~p[h[(gN7,:*t4kLUeI1tu^?6f5OHp;=&o%B=mq^qq.D!Gb*$<K[Lce&#(d9@7jG@%neR[dnECPwb>_zNr>3rZ4/ol:8rzl$#Eo*Y4ZQqZ>9Q4yBr:e7MKc30<@AdCUvvtW1M5RwSS%oo+>~x%3C;~e<_R3<^1m))7;h~]SUXgSSc64MQc@=e|,C.o_yL1:Dux?a+xoj$7q<_3G=?MeWzbjH4r%*;UKr8GEG=*N<|e3:r.0ZBHsP.M!4ZxvU8PtzurXIQf+EJa|!OoW9O49u4:nRo4(Pvo))~&@.G7GJ(zCapY];uas;k;td+31[cW^lFeKquGg!L,xKRKW4RKtz+qH$Z&1*?SWJ4Ureew;L|o3T7XH=kxh~qLqWdHuQtY+5VH>/6Q]=zW6dK9PJem*!ishh8[i6z.(4vCZb*!Ty>Fb)Z~J@Z)YeNbd=D.8mOCV.x))*oe)Hn?UZcQMf/fUCVLEogZfB/q[3aWzaAT6zCC!Pqh1nV%J8?$CKy(~[%?>?;izc/p>]4Dzh?wcOtQp6YGO6IZW@g0:%YaeXY)_<3fhxPq[HU@~FO8+vg<mBKjq<%:anFnu&&Gt>#7J^o2.1XwSdXI,0",
  "fB+gWER@[c+kiX34)RFM~B6kYc+:2cR:)<Fn<7Q_wATRd##cW#4L]o_RCJOG_*N=PW]mGFeI4+V^21#3c8rmRr^l70_+5=HSd5ovv6c,/;$bNX*c:!x8W]aCd3^a6J:me|4,oY<|oInAH*.aG[Uvrwwh.2t[LJxNMFhfCI$i|)k88@pIbF%#kmmTg1[M.m/N!w!7ihABpdIDKTuje,MiR,?!=z?xQL0~J<M2:UpVg0~tMj[SmqhrKR0>dBbKp_~v[)7FfPm)xpT+OojA0CDrVhqY^PUVDal#+8Hm~IdkIW;WQ5_8bj_;Q?VlmD//4QlJ/#Q:7O4$PF)C?@NaUXg9!p4&MELO;AF5j(]%5O0AW~?9Oy=2Znkaqy9EY/kcrfOS78A,%rHhTI,&zNS^USU>yfW2|RvnJ=fq6/KrD*+X1I*XKKl]8jG#tb)AvE7GVqw6j%+v/s+(M)&k^J:*zqx]|Vz8%(t1CDka6)axdLDcbYY#R@9CfZIeD6JkdJ?BSx1cp190M!H1+LY4j.yZ=emlH(6jgxXneel2Z3C(.z7fn=dtbj(5&u|KN^%=5cPNmnS,JvC%F=J~o:JoFqPiLA;D~:7xG9.iwP8!L~pQpk#M/rFsd&5ha6)#VsU$oF.aDE@)OBwTrNrfE2&0o(K:4~qgylc+0Z&B.R51=Y(inT)]Z(:7.pBMuRreSgwbUZ(KY9EO_lVFr%6m=3k6Z)5i^&*@ZMzaRjEk#uBrmK#eliTvtU5XqIj_(b>16B<Hs*?%4@Oj]Li@wy,eP<lrDzIwF6WUQA<*#KtnO;Yh=WPrs)(TO:f20]rmE8gmZ!&Sw1DB>3+6Ds;4?nPAcWJpHW0L,~UGv20D.SAtm>s_E#hfiR.Xt=Dti!i@|)+Ze68TjfUY5xt;@<Hc$ioWu8xT#(.xTX(:#*!>|1<2V;/2J~Rzj[SA<!ZpTxMOOb_n6<%N97$&rn*rf/9;wiG2iKOcn$.nU5wel0~vKe:lb$Hq6zk<]QuSS#c@+70v8[BFAAAxsxDvBN2T+v%yP|XDTsSwwvQZM(2xtL3xrFqy,^yxcq=V%5xWH/l?)xGb|ZiVxjlvhI4.i,Avvr,dnyHIDds;>~CAD;xQ2&Nx2.Yu)(F@/VY=!Z5sLVWWF;j1^ReUWhq[X%2hj/]XPIJPRQ$CG,Z49|Dad*5XyaDLU8u5KKi@iF5hi]s_X00Udp(HjW0TTvXqlqX.#O<UjHI+>R)vNkQf!<Z#cP6x:f(zp|k!1Nxnyvf^(aiV9.?d.W@)m;ZF6*9#uNA/w2(q~z=Cilk@t(3;R96E*ci^bz5B&FI_javqwf04^M#84l[1^W~tro(4<MXLqcnD;bDo+k(G#0&<H[Y[Lp#M&VwPB,N;pi9eAQh:GlC5Ksi(WK3ii%*Zo9U!X40cR8*uY~P69io7Q@]q<$n!&kdxP;hQbtxRFPcr+i=BwJ1]j^9m/1kG83jKF5h>Zx>Kj8J@@W$^BxTwBl+X2Nd9k:ivmC3a_hQ<q#zhSz;mpr(yQy#J9b6n7PpV*=^CXpU>T3ypAI,:|[uYhnzo9:3AoD2c(SD)<Oy2iLs%TC3$>!)3EQW+6dvj0Ysx_+rt9vn9HxOxL)^WQeTq_/A*/ra~IM<dwD;QZ%+Bk:mOm3e<GLoq.&mG][ouHHN9J~rHXD]N0Sc|ha;J,*uM%L2f66_dX(?1tyJyFR.SYguSS>[wleR,,Y&o!m(weDdiOnab5,m(T(OXB_L4rdpTcOLPEIlbJ1Sr|g|GUG#~C?E]hN(3<m!L4MHKSWA7o#=g$E>(L,4?Cov8VI!s2Et>m_+]f#Ws@r22s)QV<KMYoVcZGOZs8.W|^e;tT,.9Bj7_Cw;*gXP>!,0;Io68y6|8MNm@zx58v&=!^5]qYt7.l,qtdKvb5K^M^OVL?i!++p8yU1KW]|IrPE7>QTLSda4j;@;"]

end DeskScript.Text
